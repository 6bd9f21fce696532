import DocSql.Proofs.Sql.Evaluation
import DocSql.Proofs.Sql.Texts

/-!
Final texts of expressions, position by position. However deep an expression is
nested, its placeholders count up from left to right, so reading each of them in
the list of parameters gives the value that the expression was built to have.
Main statements: `Expr.number_template` and `Expr.valueFrom_params`.
-/
namespace DocSql.Sql

def placeholdersFrom (next count : Nat) : String :=
  String.intercalate ", " ((List.range' next count).map placeholder)

theorem numbered_marker (next : Nat) :
    numbered none next "?".toList = (placeholder next).toList := by
  change (placeholder next).toList ++ [] = _
  rw [List.append_nil]

theorem numbered_markers {α : Type} (items : List α) (next : Nat) :
    numbered none next (markers items).toList = (placeholdersFrom next items.length).toList := by
  unfold markers placeholdersFrom
  induction items generalizing next with
  | nil => rfl
  | cons a rest ih =>
    rw [List.length_cons, List.range'_succ, List.map_cons, List.map_cons]
    cases rest with
    | nil =>
      rw [List.length_nil, List.range'_zero, List.map_nil, List.map_nil,
        String.intercalate_singleton, String.intercalate_singleton]
      exact numbered_marker next
    | cons b rest =>
      have hrest := ih (next + 1)
      rw [List.length_cons, List.range'_succ, List.map_cons, List.map_cons] at hrest ⊢
      rw [String.intercalate_cons_cons, String.intercalate_cons_cons]
      simp only [String.toList_append, List.append_assoc]
      rw [Aligned.marker.numbered_append, Aligned.numbered_plain_append rfl, numbered_marker, hrest]

theorem Aligned.numbered_nothing {text : List Char} (h : Aligned text 0) (next : Nat) :
    numbered none next text = text := numbered_unmarked h.markers next

namespace Expr

def textFrom (next : Nat) : Expr → String
  | param _ => placeholder next
  | cast e type => e.textFrom next ++ "::" ++ type
  | castAs e type => "CAST((" ++ e.textFrom next ++ ") AS " ++ type ++ ")"
  | paren e => "(" ++ e.textFrom next ++ ")"
  | keyText e key => e.textFrom next ++ "->>" ++ literal key
  | array items => "ARRAY[" ++ placeholdersFrom next items.length ++ "]"
  | elements e => "ARRAY(SELECT jsonb_array_elements_text(" ++ e.textFrom next ++ "))"
  | combine operation a b =>
    a.textFrom next ++ " " ++ operation ++ " " ++ b.textFrom (next + a.params.length)
  | apply function a => function ++ "(" ++ a.textFrom next ++ ")"
  | apply₂ function a b =>
    function ++ "(" ++ a.textFrom next ++ ", " ++ b.textFrom (next + a.params.length) ++ ")"
  | apply₃ function a b c =>
    function ++ "(" ++ a.textFrom next ++ ", " ++ b.textFrom (next + a.params.length) ++ ", " ++
      c.textFrom (next + a.params.length + b.params.length) ++ ")"
  | null => null.template
  | zero => zero.template
  | quoted text => literal text
  | column name => identifier name
  | jsonAt field => jsonPath field
  | textAt field => jsonTextPath field

-- What `textFrom` writes, kind by kind, as for templates.

theorem textFrom_cast (next : Nat) (e : Expr) (type : String) :
    (cast e type).textFrom next = e.textFrom next ++ "::" ++ type := rfl

theorem textFrom_castAs (next : Nat) (e : Expr) (type : String) :
    (castAs e type).textFrom next = "CAST((" ++ e.textFrom next ++ ") AS " ++ type ++ ")" := rfl

theorem textFrom_paren (next : Nat) (e : Expr) :
    (paren e).textFrom next = "(" ++ e.textFrom next ++ ")" := rfl

theorem textFrom_keyText (next : Nat) (e : Expr) (key : String) :
    (keyText e key).textFrom next = e.textFrom next ++ "->>" ++ literal key := rfl

theorem textFrom_array (next : Nat) (items : List Datum) :
    (array items).textFrom next = "ARRAY[" ++ placeholdersFrom next items.length ++ "]" := rfl

theorem textFrom_elements (next : Nat) (e : Expr) :
    (elements e).textFrom next =
      "ARRAY(SELECT jsonb_array_elements_text(" ++ e.textFrom next ++ "))" := rfl

theorem textFrom_combine (next : Nat) (operation : String) (a b : Expr) :
    (combine operation a b).textFrom next =
      a.textFrom next ++ " " ++ operation ++ " " ++ b.textFrom (next + a.params.length) := rfl

theorem textFrom_apply (next : Nat) (function : String) (a : Expr) :
    (apply function a).textFrom next = function ++ "(" ++ a.textFrom next ++ ")" := rfl

theorem textFrom_apply₂ (next : Nat) (function : String) (a b : Expr) :
    (apply₂ function a b).textFrom next =
      function ++ "(" ++ a.textFrom next ++ ", " ++
        b.textFrom (next + a.params.length) ++ ")" := rfl

theorem textFrom_apply₃ (next : Nat) (function : String) (a b c : Expr) :
    (apply₃ function a b c).textFrom next =
      function ++ "(" ++ a.textFrom next ++ ", " ++ b.textFrom (next + a.params.length) ++ ", " ++
        c.textFrom (next + a.params.length + b.params.length) ++ ")" := rfl

theorem numbered_template {e : Expr} (h : e.IsPlain) (next : Nat) :
    numbered none next e.template.toList = (e.textFrom next).toList := by
  induction e generalizing next with
  | null => exact (aligned (e := null) h).numbered_nothing next
  | zero => exact (aligned (e := zero) h).numbered_nothing next
  | quoted text => exact (literal_aligned text).numbered_nothing next
  | column name => exact (identifier_aligned name).numbered_nothing next
  | jsonAt field => exact (jsonPath_aligned field).numbered_nothing next
  | textAt field => exact (jsonTextPath_aligned field).numbered_nothing next
  | param value =>
    rw [template_param]
    exact numbered_marker next
  | cast e type ih =>
    simp only [template_cast, textFrom_cast, String.toList_append, List.append_assoc]
    rw [(aligned h.1).numbered_append, ih h.1, Aligned.numbered_plain_append rfl,
      numbered_plain h.2]
  | castAs e type ih =>
    simp only [template_castAs, textFrom_castAs, String.toList_append, List.append_assoc]
    rw [Aligned.numbered_plain_append rfl, (aligned h.1).numbered_append, ih h.1,
      Aligned.numbered_plain_append rfl, Aligned.numbered_plain_append h.2, numbered_plain rfl]
  | paren e ih =>
    have he : e.IsPlain := h
    simp only [template_paren, textFrom_paren, String.toList_append, List.append_assoc]
    rw [Aligned.numbered_plain_append rfl, (aligned he).numbered_append, ih he, numbered_plain rfl]
  | keyText e key ih =>
    have he : e.IsPlain := h
    simp only [template_keyText, textFrom_keyText, String.toList_append, List.append_assoc]
    rw [(aligned he).numbered_append, ih he, Aligned.numbered_plain_append rfl,
      (literal_aligned key).numbered_nothing]
  | array items =>
    simp only [template_array, textFrom_array, String.toList_append, List.append_assoc]
    rw [Aligned.numbered_plain_append rfl, (markers_aligned items).numbered_append,
      numbered_markers, numbered_plain rfl]
  | elements e ih =>
    have he : e.IsPlain := h
    simp only [template_elements, textFrom_elements, String.toList_append, List.append_assoc]
    rw [Aligned.numbered_plain_append rfl, (aligned he).numbered_append, ih he, numbered_plain rfl]
  | combine operation a b iha ihb =>
    simp only [template_combine, textFrom_combine, String.toList_append, List.append_assoc]
    rw [(aligned h.2.1).numbered_append, iha h.2.1, Aligned.numbered_plain_append rfl,
      Aligned.numbered_plain_append h.1, Aligned.numbered_plain_append rfl, ihb h.2.2]
  | apply function a ih =>
    simp only [template_apply, textFrom_apply, String.toList_append, List.append_assoc]
    rw [Aligned.numbered_plain_append h.1, Aligned.numbered_plain_append rfl,
      (aligned h.2).numbered_append, ih h.2, numbered_plain rfl]
  | apply₂ function a b iha ihb =>
    simp only [template_apply₂, textFrom_apply₂, String.toList_append, List.append_assoc]
    rw [Aligned.numbered_plain_append h.1, Aligned.numbered_plain_append rfl,
      (aligned h.2.1).numbered_append, iha h.2.1, Aligned.numbered_plain_append rfl,
      (aligned h.2.2).numbered_append, ihb h.2.2, numbered_plain rfl]
  | apply₃ function a b c iha ihb ihc =>
    simp only [template_apply₃, textFrom_apply₃, String.toList_append, List.append_assoc]
    rw [Aligned.numbered_plain_append h.1, Aligned.numbered_plain_append rfl,
      (aligned h.2.1).numbered_append, iha h.2.1, Aligned.numbered_plain_append rfl,
      (aligned h.2.2.1).numbered_append, ihb h.2.2.1, Aligned.numbered_plain_append rfl,
      (aligned h.2.2.2).numbered_append, ihc h.2.2.2, numbered_plain rfl]

theorem number_template {e : Expr} (h : e.IsPlain) (next : Nat) :
    number next e.template = e.textFrom next := by
  rw [number, numbered_template h, String.ofList_toList]

variable {V : Type} (M : Valuation V)

/-- The value of a final text, each placeholder read as what is bound at its position. -/
def valueFrom (bound : Nat → Datum) (next : Nat) : Expr → Option V
  | param _ => M.datum? (bound next)
  | cast e type | castAs e type => (e.valueFrom bound next).map (M.cast type)
  | paren e => e.valueFrom bound next
  | keyText e key => M.call "->>" [e.valueFrom bound next, some (M.constant (literal key))]
  | array items => some (M.array ((List.range' next items.length).map bound))
  | elements e => M.call "jsonb_array_elements_text" [e.valueFrom bound next]
  | combine operation a b =>
    M.call operation [a.valueFrom bound next, b.valueFrom bound (next + a.params.length)]
  | apply function a => M.call function [a.valueFrom bound next]
  | apply₂ function a b =>
    M.call function [a.valueFrom bound next, b.valueFrom bound (next + a.params.length)]
  | apply₃ function a b c =>
    M.call function [a.valueFrom bound next, b.valueFrom bound (next + a.params.length),
      c.valueFrom bound (next + a.params.length + b.params.length)]
  | null => none
  | zero => some (M.constant "0")
  | quoted text => some (M.constant (literal text))
  | column name => M.column name
  | jsonAt field => M.path field
  | textAt field => (M.path field).bind M.asText

def boundFrom (next : Nat) (params : List Datum) (position : Nat) : Datum :=
  params.getD (position - next) .null

theorem map_boundFrom (next : Nat) (params : List Datum) :
    (List.range' next params.length).map (boundFrom next params) = params := by
  refine List.ext_getElem (by simp) fun i hi hp => ?_
  simp [boundFrom, List.getElem_range', hp]

variable {M}

theorem valueFrom_eq {bound : Nat → Datum} {e : Expr} {next : Nat}
    (h : (List.range' next e.params.length).map bound = e.params) :
    e.valueFrom M bound next = e.value M := by
  -- The positions of two expressions in a row are those of the first and those behind them.
  have hsplit {ps qs : List Datum} {next : Nat}
      (h : (List.range' next (ps ++ qs).length).map bound = ps ++ qs) :
      (List.range' next ps.length).map bound = ps ∧
        (List.range' (next + ps.length) qs.length).map bound = qs := by
    rw [List.length_append, ← List.range'_append_1, List.map_append] at h
    exact List.append_inj h (by simp)
  induction e generalizing next with
  | null | zero | quoted _ | column _ | jsonAt _ | textAt _ => rfl
  | param value =>
    have hvalue : bound next = value := (List.cons.inj h).1
    rw [valueFrom, hvalue]
    rfl
  | array items =>
    have hitems : (List.range' next items.length).map bound = items := h
    rw [valueFrom, hitems]
    rfl
  | cast e _ ih | castAs e _ ih | paren e ih | keyText e _ ih | elements e ih | apply _ e ih =>
    simp only [valueFrom, value, ih h]
  | combine _ a b iha ihb | apply₂ _ a b iha ihb =>
    obtain ⟨ha, hb⟩ := hsplit h
    simp only [valueFrom, value, iha ha, ihb hb]
  | apply₃ _ a b c iha ihb ihc =>
    obtain ⟨hab, hc⟩ := hsplit h
    obtain ⟨ha, hb⟩ := hsplit hab
    rw [List.length_append, ← Nat.add_assoc] at hc
    simp only [valueFrom, value, iha ha, ihb hb, ihc hc]

theorem valueFrom_params (e : Expr) (next : Nat) :
    e.valueFrom M (boundFrom next e.params) next = e.value M :=
  valueFrom_eq (map_boundFrom next e.params)

end Expr
end DocSql.Sql
