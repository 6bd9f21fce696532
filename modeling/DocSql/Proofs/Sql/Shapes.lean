import DocSql.Proofs.Sql.Binding

/-!
What is left of conditions without the values of their parameters. The text of a
condition and its orderings are written from this shape, so values reach a
statement as parameters and in no other way.
-/
namespace DocSql.Sql

theorem markers_map {α β : Type} (f : α → β) (items : List α) :
    markers (items.map f) = markers items := by
  rw [markers, List.map_map]
  rfl

namespace Expr

def shape : Expr → Expr
  | null => null
  | zero => zero
  | quoted text => quoted text
  | column name => column name
  | jsonAt field => jsonAt field
  | textAt field => textAt field
  | param _ => param .null
  | cast e type => cast e.shape type
  | castAs e type => castAs e.shape type
  | paren e => paren e.shape
  | keyText e key => keyText e.shape key
  | array items => array (items.map fun _ => .null)
  | elements e => elements e.shape
  | combine operation a b => combine operation a.shape b.shape
  | apply function a => apply function a.shape
  | apply₂ function a b => apply₂ function a.shape b.shape
  | apply₃ function a b c => apply₃ function a.shape b.shape c.shape

theorem template_shape (e : Expr) : e.shape.template = e.template := by
  induction e with
  | null | zero | quoted _ | column _ | jsonAt _ | textAt _ | param _ => rfl
  | cast e type ih => simp only [shape, template_cast, ih]
  | castAs e type ih => simp only [shape, template_castAs, ih]
  | paren e ih => simp only [shape, template_paren, ih]
  | keyText e key ih => simp only [shape, template_keyText, ih]
  | array items => simp only [shape, template_array, markers_map]
  | elements e ih => simp only [shape, template_elements, ih]
  | combine operation a b iha ihb => simp only [shape, template_combine, iha, ihb]
  | apply function e ih => simp only [shape, template_apply, ih]
  | apply₂ function a b iha ihb => simp only [shape, template_apply₂, iha, ihb]
  | apply₃ function a b c iha ihb ihc => simp only [shape, template_apply₃, iha, ihb, ihc]

theorem params_shape (e : Expr) : e.shape.params.length = e.params.length := by
  induction e with
  | array items => simp only [shape, params, List.length_map]
  | null | zero | quoted _ | column _ | jsonAt _ | textAt _ | param _ => rfl
  | cast e type ih | castAs e type ih | paren e ih | keyText e key ih | elements e ih
  | apply function e ih => simp only [shape, params, ih]
  | combine operation a b iha ihb | apply₂ function a b iha ihb =>
    simp only [shape, params, List.length_append, iha, ihb]
  | apply₃ function a b c iha ihb ihc => simp only [shape, params, List.length_append, iha, ihb, ihc]

end Expr

namespace Predicate

mutual

def shape : Predicate → Predicate
  | always => always
  | isNull e => isNull e.shape
  | isNotNull e => isNotNull e.shape
  | holds e => holds e.shape
  | compare left relation right => compare left.shape relation right.shape
  | isIn e items => isIn e.shape (items.map fun _ => .null)
  | notIn e items => notIn e.shape (items.map fun _ => .null)
  | nearest distance limit => nearest distance.shape (limit.map fun _ => .null)
  | not p => not (shape p)
  | and ps => and (shapes ps)
  | or ps => or (shapes ps)
  | paren p => paren (shape p)

def shapes : List Predicate → List Predicate
  | [] => []
  | p :: rest => shape p :: shapes rest

end

theorem shapes_eq (ps : List Predicate) : shapes ps = ps.map shape := by
  induction ps with
  | nil => rfl
  | cons p rest ih => rw [shapes, ih, List.map_cons]

mutual

theorem template_shape : ∀ p : Predicate, p.shape.template = p.template
  | always => rfl
  | isNull e | isNotNull e | holds e => by simp only [shape, template, Expr.template_shape]
  | compare left relation right => by simp only [shape, template, Expr.template_shape]
  | isIn e items | notIn e items => by
    simp only [shape, template, Expr.template_shape, markers_map]
  | nearest distance limit => by
    cases limit with
    | none => simp only [shape, Option.map_none, template, Expr.template_shape]
    | some limit => simp only [shape, Option.map_some, template, Expr.template_shape]
  | not p | paren p => by simp only [shape, template, template_shape p]
  | and ps | or ps => by simp only [shape, template, templates_shapes ps]

theorem templates_shapes : ∀ ps : List Predicate, templates (shapes ps) = templates ps
  | [] => rfl
  | p :: rest => by simp only [shapes, templates, template_shape p, templates_shapes rest]

end

mutual

theorem params_shape : ∀ p : Predicate, p.shape.params.length = p.params.length
  | always => rfl
  | isNull e | isNotNull e | holds e => by simp only [shape, params, Expr.params_shape]
  | compare left relation right => by
    simp only [shape, params, List.length_append, Expr.params_shape]
  | isIn e items | notIn e items => by
    simp only [shape, params, List.length_append, Expr.params_shape, List.length_map]
  | nearest distance limit => by
    simp only [shape, params, List.length_append, Expr.params_shape]
    cases limit with
    | none | some _ => rfl
  | not p | paren p => by simp only [shape, params, params_shape p]
  | and ps | or ps => by simp only [shape, params, paramsAll_shapes ps]

theorem paramsAll_shapes : ∀ ps : List Predicate,
    (paramsAll (shapes ps)).length = (paramsAll ps).length
  | [] => rfl
  | p :: rest => by
    simp only [shapes, paramsAll, List.length_append, params_shape p, paramsAll_shapes rest]

end

mutual

theorem orderings_shape (next : Nat) : ∀ p : Predicate,
    p.shape.orderings next = p.orderings next
  | nearest distance limit => by simp only [shape, orderings, Expr.template_shape]
  | not p | paren p => by simp only [shape, orderings, orderings_shape next p]
  | and ps | or ps => by simp only [shape, orderings, orderingsAll_shapes next ps]
  | always | isNull _ | isNotNull _ | holds _ | compare _ _ _ | isIn _ _ | notIn _ _ => rfl

theorem orderingsAll_shapes (next : Nat) : ∀ ps : List Predicate,
    orderingsAll next (shapes ps) = orderingsAll next ps
  | [] => rfl
  | p :: rest => by
    simp only [shapes, orderingsAll, orderings_shape next p, params_shape p,
      orderingsAll_shapes _ rest]

end

/-- Conditions that differ in the values of their parameters alone. -/
def SameShape (p q : Predicate) : Prop := p.shape = q.shape

def SameShapes (ps qs : List Predicate) : Prop := ps.map shape = qs.map shape

theorem SameShape.refl (p : Predicate) : SameShape p p := rfl

theorem SameShapes.refl (ps : List Predicate) : SameShapes ps ps := rfl

theorem SameShapes.single {p q : Predicate} (h : SameShape p q) : SameShapes [p] [q] :=
  congrArg (fun shape => [shape]) h

theorem SameShapes.append {ps qs more others : List Predicate} (h : SameShapes ps qs)
    (hm : SameShapes more others) : SameShapes (ps ++ more) (qs ++ others) := by
  unfold SameShapes at h hm ⊢
  rw [List.map_append, List.map_append, h, hm]

theorem SameShapes.shapes_eq {ps qs : List Predicate} (h : SameShapes ps qs) :
    shapes ps = shapes qs := by
  rw [Predicate.shapes_eq, Predicate.shapes_eq, h]

end Predicate

namespace Filter

open Predicate (SameShapes)

theorem patternOf_shapes (next : Nat) (conjuncts : List Predicate) :
    patternOf next (conjuncts.map Predicate.shape) = patternOf next conjuncts := by
  have htemplate : (Predicate.and (conjuncts.map Predicate.shape)).template =
      (Predicate.and conjuncts).template := by
    rw [← Predicate.shapes_eq]
    exact Predicate.template_shape (.and conjuncts)
  rw [patternOf, patternOf, htemplate, List.isEmpty_map]

theorem written_of_sameShapes {conjuncts others : List Predicate} (h : SameShapes conjuncts others)
    (next : Nat) :
    (⟨patternOf next conjuncts, Predicate.orderingsAll next conjuncts⟩ : Filter) =
        ⟨patternOf next others, Predicate.orderingsAll next others⟩ ∧
      (Predicate.paramsAll conjuncts).length = (Predicate.paramsAll others).length := by
  constructor
  · rw [← patternOf_shapes next conjuncts, h, patternOf_shapes,
      ← Predicate.orderingsAll_shapes next conjuncts, h.shapes_eq, Predicate.orderingsAll_shapes]
  · rw [← Predicate.paramsAll_shapes conjuncts, h.shapes_eq, Predicate.paramsAll_shapes]

end Filter
end DocSql.Sql
