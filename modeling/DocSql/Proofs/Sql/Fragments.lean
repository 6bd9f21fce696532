import DocSql.Proofs.Sql.Binding

/-!
The shapes that the conditions of a single operator have. Their expressions
call named functions and cast to named types, and parentheses enclose whatever
would fall apart next to `NOT`, `AND` or `OR`.
-/
namespace DocSql.Sql

def isNameChar (c : Char) : Bool := c.isAlpha || c == '_'

def isName (text : List Char) : Bool := !text.isEmpty && text.all isNameChar

def isPhrase (text : List Char) : Bool := text.all fun c => isNameChar c || c == ' '

theorem isPhrase_of_isName {text : List Char} (h : isName text) : isPhrase text := by
  rw [isName, Bool.and_eq_true, List.all_eq_true] at h
  rw [isPhrase, List.all_eq_true]
  intro c hc
  rw [h.2 c hc, Bool.true_or]

theorem isPlain_of_isPhrase {text : List Char} (h : isPhrase text) : isPlain text := by
  rw [isPhrase, List.all_eq_true] at h
  rw [isPlain, List.all_eq_true]
  intro c hc
  have hchar := h c hc
  rw [Bool.not_eq_true', List.contains_eq_mem, decide_eq_false_iff_not]
  intro hmark
  simp only [List.mem_cons, List.not_mem_nil, or_false] at hmark
  rcases hmark with rfl | rfl | rfl | rfl <;> exact absurd hchar (by decide)

theorem isPlain_of_isName {text : List Char} (h : isName text) : isPlain text :=
  isPlain_of_isPhrase (isPhrase_of_isName h)

namespace Expr

/-- Expressions without an operation of their own: one word of a condition,
but for what stands inside parentheses. -/
def IsTight : Expr → Prop
  | null | zero | quoted _ | column _ | jsonAt _ | textAt _ | param _ | array _ => True
  | cast e type => e.IsTight ∧ isName type.toList
  | castAs e type => e.IsTight ∧ isPhrase type.toList
  | paren e | keyText e _ | elements e => e.IsTight
  | combine _ _ _ => False
  | apply function a => isName function.toList ∧ a.IsTight
  | apply₂ function a b => isName function.toList ∧ a.IsTight ∧ b.IsTight
  | apply₃ function a b c => isName function.toList ∧ a.IsTight ∧ b.IsTight ∧ c.IsTight

theorem IsTight.isPlain {e : Expr} (h : e.IsTight) : e.IsPlain := by
  induction e with
  | null | zero | quoted _ | column _ | jsonAt _ | textAt _ | param _ | array _ => trivial
  | cast e type ih => exact ⟨ih h.1, isPlain_of_isName h.2⟩
  | castAs e type ih => exact ⟨ih h.1, isPlain_of_isPhrase h.2⟩
  | paren e ih | keyText e key ih | elements e ih => exact ih h
  | combine operation a b => exact h.elim
  | apply function a ih => exact ⟨isPlain_of_isName h.1, ih h.2⟩
  | apply₂ function a b iha ihb => exact ⟨isPlain_of_isName h.1, iha h.2.1, ihb h.2.2⟩
  | apply₃ function a b c iha ihb ihc =>
    exact ⟨isPlain_of_isName h.1, iha h.2.1, ihb h.2.2.1, ihc h.2.2.2⟩

theorem point_tight (p : Point) : (point p).IsTight := ⟨rfl, trivial, trivial⟩

theorem json_tight (value : Json) : (json value).IsTight := ⟨trivial, rfl⟩

theorem polygon_tight (ring : Ring) : (polygon ring).IsTight := ⟨trivial, rfl⟩

end Expr

namespace Predicate

/-- A condition without connectives, as the text of an operator writes it. -/
inductive IsAtom : Predicate → Prop
  | always : IsAtom always
  | isNull {e : Expr} (h : e.IsTight) : IsAtom (isNull e)
  | isNotNull {e : Expr} (h : e.IsTight) : IsAtom (isNotNull e)
  | holds {function : String} {a b : Expr} (h : (Expr.apply₂ function a b).IsTight) :
    IsAtom (holds (.apply₂ function a b))
  | compare {left right : Expr} {relation : Relation} (hl : left.IsTight) (hr : right.IsTight) :
    IsAtom (compare left relation right)
  | isIn {e : Expr} {items : List Datum} (h : e.IsTight) : IsAtom (isIn e items)
  | notIn {e : Expr} {items : List Datum} (h : e.IsTight) : IsAtom (notIn e items)
  | nearest {distance : Expr} {limit : Option Datum} (h : distance.IsTight) :
    IsAtom (nearest distance limit)

/-- A condition that can stand next to any connective. -/
inductive IsFragment : Predicate → Prop
  | atom {p : Predicate} (h : p.IsAtom) : IsFragment p
  | negated {p : Predicate} (h : p.IsAtom) : IsFragment (not p)
  | anyOf {p q : Predicate} (hp : p.IsAtom) (hq : q.IsAtom) : IsFragment (paren (or [p, q]))
  | allOf {p q : Predicate} (hp : p.IsAtom) (hq : q.IsAtom) : IsFragment (paren (and [p, q]))

theorem IsAtom.isPlain {p : Predicate} (h : p.IsAtom) : p.IsPlain := by
  cases h with
  | always => trivial
  | isNull h | isNotNull h | isIn h | notIn h | nearest h => exact h.isPlain
  | holds h => exact h.isPlain
  | compare hl hr => exact ⟨hl.isPlain, hr.isPlain⟩

theorem IsFragment.isPlain {p : Predicate} (h : p.IsFragment) : p.IsPlain := by
  cases h with
  | atom h | negated h => exact h.isPlain
  | anyOf hp hq | allOf hp hq => exact ⟨hp.isPlain, hq.isPlain, trivial⟩

/-- A fragment that asks for no ordering. -/
structure IsTest (p : Predicate) : Prop where
  fragment : p.IsFragment
  unordered : p.distances = []

namespace IsTest

variable {e left right : Expr} {relation : Relation} {items : List Datum}

theorem always : IsTest always := ⟨.atom .always, rfl⟩

theorem isNull (h : e.IsTight) : IsTest (isNull e) := ⟨.atom (.isNull h), rfl⟩

theorem isNotNull (h : e.IsTight) : IsTest (isNotNull e) := ⟨.atom (.isNotNull h), rfl⟩

theorem compare (hl : left.IsTight) (hr : right.IsTight) : IsTest (compare left relation right) :=
  ⟨.atom (.compare hl hr), rfl⟩

theorem isIn (h : e.IsTight) : IsTest (isIn e items) := ⟨.atom (.isIn h), rfl⟩

theorem notIn (h : e.IsTight) : IsTest (notIn e items) := ⟨.atom (.notIn h), rfl⟩

theorem orNull (he : e.IsTight) (hr : right.IsTight) :
    IsTest (orNull e (Predicate.compare e relation right)) :=
  ⟨.anyOf (.compare he hr) (.isNull he), rfl⟩

end IsTest
end Predicate
end DocSql.Sql
