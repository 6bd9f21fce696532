import DocSql.Proofs.Sql.Placeholders
import DocSql.Sql.Predicate
import Mathlib.Algebra.Ring.Nat
import Mathlib.Data.List.Forall2

/-!
Value expressions and conditions are aligned: the walk that writes the template
and the walk that gathers the parameters meet the markers in one order. All it
takes is that functions, types and operations have plain names; names of fields
and texts of values may hold anything, as they stand inside quotes.
-/
namespace DocSql.Sql

/-- Plain text that can follow a number without becoming part of it. -/
def isJoint (text : List Char) : Bool :=
  isPlain text && text.head?.any fun c => !c.isDigit

theorem isJoint_plain {text : List Char} (h : isJoint text) : isPlain text := by
  rw [isJoint, Bool.and_eq_true] at h
  exact h.1

theorem isJoint_start {text : List Char} (h : isJoint text) (rest : List Char) :
    startsWithDigit (text ++ rest) = false := by
  rw [isJoint, Bool.and_eq_true] at h
  cases text with
  | nil => simp at h
  | cons c text => simpa [startsWithDigit] using h.2

theorem Aligned.joined {a b joint : List Char} {m n : Nat} (ha : Aligned a m)
    (hj : isJoint joint) (hb : Aligned b n) : Aligned (a ++ (joint ++ b)) (m + n) :=
  ha.append (.plain_append (isJoint_plain hj) hb) (isJoint_start hj b)

theorem Aligned.closedBy {a joint : List Char} {n : Nat} (ha : Aligned a n) (hj : isJoint joint) :
    Aligned (a ++ joint) n := by
  have hd := isJoint_start hj []
  rw [List.append_nil] at hd
  exact ha.append_plain (isJoint_plain hj) hd

theorem Aligned.intercalate {joint : String} (hj : isJoint joint.toList) {texts : List String}
    {counts : List Nat} (h : List.Forall₂ (fun text n => Aligned text.toList n) texts counts) :
    Aligned (joint.intercalate texts).toList counts.sum := by
  induction h with
  | nil =>
    rw [String.intercalate_nil]
    exact .plain rfl
  | @cons a n texts counts ha hrest ih =>
    cases hrest with
    | nil => simpa using ha
    | @cons b k texts counts hb hrest =>
      rw [String.intercalate_cons_cons, String.toList_append, String.toList_append,
        List.append_assoc, List.sum_cons]
      exact ha.joined hj ih

theorem markers_aligned {α : Type} (items : List α) :
    Aligned (markers items).toList items.length := by
  have h : List.Forall₂ (fun text n => Aligned text.toList n) (items.map fun _ => "?")
      (items.map fun _ => 1) := by
    induction items with
    | nil => exact .nil
    | cons a rest ih => exact .cons Aligned.marker ih
  have hsum : (items.map fun _ => 1).sum = items.length := by simp
  exact hsum ▸ Aligned.intercalate rfl h

theorem steps_start (segments : List String) : startsWithDigit (steps segments).toList = false := by
  cases segments with
  | nil => rfl
  | cons segment rest => simp [steps, startsWithDigit, String.toList_join]

theorem steps_aligned (segments : List String) : Aligned (steps segments).toList 0 := by
  induction segments with
  | nil => exact .plain rfl
  | cons segment rest ih =>
    have h : (steps (segment :: rest)).toList =
        ("->".toList ++ (literal segment).toList) ++ (steps rest).toList := by
      simp [steps, String.toList_join]
    rw [h]
    exact (Aligned.plain_append rfl (literal_aligned segment)).append ih (steps_start rest)

theorem jsonPath_aligned (field : String) : Aligned (jsonPath field).toList 0 := by
  unfold jsonPath
  split
  next column path h =>
    rw [String.toList_append]
    exact (identifier_aligned column).append (steps_aligned path) (steps_start path)
  next h => exact identifier_aligned ""

theorem jsonTextPath_aligned (field : String) : Aligned (jsonTextPath field).toList 0 := by
  unfold jsonTextPath
  split
  next h => exact identifier_aligned ""
  next column h => exact identifier_aligned column
  next column path _ h =>
    simp only [String.toList_append, List.append_assoc]
    have hlast := (literal_aligned (path.getLast?.getD "")).plain_append (a := "->>".toList) rfl
    refine (identifier_aligned column).append ((steps_aligned path.dropLast).append hlast rfl) ?_
    rw [startsWithDigit_append _ rfl]
    exact steps_start path.dropLast

namespace Expr

-- What `template` writes, kind by kind, for rewriting one step at a time.

theorem template_null : null.template = "NULL" := rfl

theorem template_zero : zero.template = "0" := rfl

theorem template_quoted (text : String) : (quoted text).template = literal text := rfl

theorem template_column (name : String) : (column name).template = identifier name := rfl

theorem template_jsonAt (field : String) : (jsonAt field).template = jsonPath field := rfl

theorem template_textAt (field : String) : (textAt field).template = jsonTextPath field := rfl

theorem template_param (value : Datum) : (param value).template = "?" := rfl

theorem template_cast (e : Expr) (type : String) :
    (cast e type).template = e.template ++ "::" ++ type := rfl

theorem template_castAs (e : Expr) (type : String) :
    (castAs e type).template = "CAST((" ++ e.template ++ ") AS " ++ type ++ ")" := rfl

theorem template_paren (e : Expr) : (paren e).template = "(" ++ e.template ++ ")" := rfl

theorem template_keyText (e : Expr) (key : String) :
    (keyText e key).template = e.template ++ "->>" ++ literal key := rfl

theorem template_array (items : List Datum) :
    (array items).template = "ARRAY[" ++ markers items ++ "]" := rfl

theorem template_elements (e : Expr) :
    (elements e).template = "ARRAY(SELECT jsonb_array_elements_text(" ++ e.template ++ "))" := rfl

theorem template_combine (operation : String) (a b : Expr) :
    (combine operation a b).template = a.template ++ " " ++ operation ++ " " ++ b.template := rfl

theorem template_apply (function : String) (a : Expr) :
    (apply function a).template = function ++ "(" ++ a.template ++ ")" := rfl

theorem template_apply₂ (function : String) (a b : Expr) :
    (apply₂ function a b).template =
      function ++ "(" ++ a.template ++ ", " ++ b.template ++ ")" := rfl

theorem template_apply₃ (function : String) (a b c : Expr) :
    (apply₃ function a b c).template =
      function ++ "(" ++ a.template ++ ", " ++ b.template ++ ", " ++ c.template ++ ")" := rfl

def IsPlain : Expr → Prop
  | null | zero | quoted _ | column _ | jsonAt _ | textAt _ | param _ | array _ => True
  | cast e type | castAs e type => e.IsPlain ∧ isPlain type.toList
  | paren e | keyText e _ | elements e => e.IsPlain
  | combine operation a b => isPlain operation.toList ∧ a.IsPlain ∧ b.IsPlain
  | apply function a => isPlain function.toList ∧ a.IsPlain
  | apply₂ function a b => isPlain function.toList ∧ a.IsPlain ∧ b.IsPlain
  | apply₃ function a b c => isPlain function.toList ∧ a.IsPlain ∧ b.IsPlain ∧ c.IsPlain

theorem aligned {e : Expr} (h : e.IsPlain) : Aligned e.template.toList e.params.length := by
  induction e with
  | null =>
    rw [template_null]
    exact .plain rfl
  | zero =>
    rw [template_zero]
    exact .plain rfl
  | quoted text =>
    rw [template_quoted]
    exact literal_aligned text
  | column name =>
    rw [template_column]
    exact identifier_aligned name
  | jsonAt field =>
    rw [template_jsonAt]
    exact jsonPath_aligned field
  | textAt field =>
    rw [template_textAt]
    exact jsonTextPath_aligned field
  | param value =>
    rw [template_param]
    exact .marker
  | cast e type ih =>
    simp only [template_cast, params, String.toList_append, List.append_assoc]
    exact (ih h.1).joined rfl (.plain h.2)
  | castAs e type ih =>
    simp only [template_castAs, params, String.toList_append, List.append_assoc]
    exact .plain_append rfl ((ih h.1).joined rfl ((Aligned.plain h.2).closedBy rfl))
  | paren e ih =>
    simp only [template_paren, params, String.toList_append, List.append_assoc]
    exact .plain_append rfl ((ih h).closedBy rfl)
  | keyText e key ih =>
    simp only [template_keyText, params, String.toList_append, List.append_assoc]
    exact (ih h).joined rfl (literal_aligned key)
  | array items =>
    simp only [template_array, params, String.toList_append, List.append_assoc]
    exact .plain_append rfl ((markers_aligned items).closedBy rfl)
  | elements e ih =>
    simp only [template_elements, params, String.toList_append, List.append_assoc]
    exact .plain_append rfl ((ih h).closedBy rfl)
  | combine operation a b iha ihb =>
    simp only [template_combine, params, String.toList_append, List.append_assoc,
      List.length_append]
    exact (iha h.2.1).joined rfl (.plain_append h.1 (.plain_append rfl (ihb h.2.2)))
  | apply function a ih =>
    simp only [template_apply, params, String.toList_append, List.append_assoc]
    exact .plain_append h.1 (.plain_append rfl ((ih h.2).closedBy rfl))
  | apply₂ function a b iha ihb =>
    simp only [template_apply₂, params, String.toList_append, List.append_assoc,
      List.length_append]
    have hb : Aligned (b.template.toList ++ ")".toList) b.params.length := (ihb h.2.2).closedBy rfl
    exact .plain_append h.1 (.plain_append rfl ((iha h.2.1).joined rfl hb))
  | apply₃ function a b c iha ihb ihc =>
    simp only [template_apply₃, params, String.toList_append, List.append_assoc,
      List.length_append]
    have hc : Aligned (c.template.toList ++ ")".toList) c.params.length :=
      (ihc h.2.2.2).closedBy rfl
    exact .plain_append h.1 (.plain_append rfl ((iha h.2.1).joined rfl
      ((ihb h.2.2.1).joined rfl hc)))

end Expr

namespace Predicate

mutual

def IsPlain : Predicate → Prop
  | always => True
  | isNull e | isNotNull e | holds e | isIn e _ | notIn e _ | nearest e _ => e.IsPlain
  | compare left _ right => left.IsPlain ∧ right.IsPlain
  | not p | paren p => IsPlain p
  | and ps | or ps => AllPlain ps

def AllPlain : List Predicate → Prop
  | [] => True
  | p :: rest => IsPlain p ∧ AllPlain rest

end

theorem allPlain_iff {ps : List Predicate} : AllPlain ps ↔ ∀ p ∈ ps, p.IsPlain := by
  induction ps with
  | nil => simp [AllPlain]
  | cons p rest ih => simp [AllPlain, ih]

theorem symbol_plain (relation : Relation) : isPlain relation.symbol.toList := by
  cases relation <;> rfl

mutual

theorem aligned : ∀ {p : Predicate}, p.IsPlain → Aligned p.template.toList p.params.length
  | always, _ => by
    simp only [template, params, List.length_nil]
    exact .plain rfl
  | isNull e, h => by
    simp only [template, params, String.toList_append]
    exact (Expr.aligned h).closedBy rfl
  | isNotNull e, h => by
    simp only [template, params, String.toList_append]
    exact (Expr.aligned h).closedBy rfl
  | holds e, h => by
    simp only [template, params]
    exact Expr.aligned h
  | compare left relation right, h => by
    simp only [template, params, String.toList_append, List.append_assoc, List.length_append]
    have hright := (Expr.aligned h.2).plain_append (a := " ".toList) rfl
    exact (Expr.aligned h.1).joined rfl (.plain_append (symbol_plain relation) hright)
  | isIn e items, h => by
    simp only [template, params, String.toList_append, List.append_assoc, List.length_append]
    exact (Expr.aligned h).joined rfl ((markers_aligned items).closedBy rfl)
  | notIn e items, h => by
    simp only [template, params, String.toList_append, List.append_assoc, List.length_append]
    exact (Expr.aligned h).joined rfl ((markers_aligned items).closedBy rfl)
  | nearest e (some limit), h => by
    simp only [template, params, String.toList_append, List.length_append]
    have hlimit := Aligned.plain_append (a := " <= ".toList) rfl .marker
    exact (Expr.aligned h).append hlimit rfl
  | nearest e none, h => by
    simp only [template, params, String.toList_append, List.length_append]
    exact (Expr.aligned h).closedBy rfl
  | not p, h => by
    simp only [template, params, String.toList_append]
    exact .plain_append rfl (aligned (p := p) h)
  | paren p, h => by
    simp only [template, params, String.toList_append, List.append_assoc]
    exact .plain_append rfl ((aligned (p := p) h).closedBy rfl)
  | and ps, h => by
    simp only [template, params]
    obtain ⟨counts, hsum, hall⟩ := allAligned h
    exact hsum ▸ .intercalate rfl hall
  | or ps, h => by
    simp only [template, params]
    obtain ⟨counts, hsum, hall⟩ := allAligned h
    exact hsum ▸ .intercalate rfl hall

theorem allAligned : ∀ {ps : List Predicate}, AllPlain ps →
    ∃ counts : List Nat, counts.sum = (paramsAll ps).length ∧
      List.Forall₂ (fun text n => Aligned text.toList n) (templates ps) counts
  | [], _ => ⟨[], rfl, .nil⟩
  | p :: rest, h => by
    obtain ⟨counts, hsum, hall⟩ := allAligned h.2
    refine ⟨p.params.length :: counts, ?_, .cons (aligned h.1) hall⟩
    simp only [List.sum_cons, paramsAll, List.length_append, hsum]

end

end Predicate
end DocSql.Sql
