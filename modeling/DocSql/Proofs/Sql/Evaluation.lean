import DocSql.Proofs.Sql.Operands
import DocSql.Statement.HelperFunction

/-!
What conditions mean in a row. Expressions have a value there or none, and a
condition is unknown where a value it compares is missing. A truth assignment
that judges every atom of a condition by its meaning makes the final text of
the condition read as its meaning.
-/
namespace DocSql

def Double.equal (x y : Double) : Bool := x.same y || (x.isNaN && y.isNaN)

/-- Whether a scalar in a column equals a parameter of its kind; whole numbers are
compared as the binary64 numbers that they become. -/
def Datum.equal? : Datum → Datum → Option Bool
  | text s, text t => some (s == t)
  | bool a, bool b => some (a == b)
  | float x, float y => some (x.equal y)
  | float x, int n => some (x.equal (.ofInt n))
  | _, _ => none

namespace Sql

def strictFunctions : List String :=
  ["LOWER", "POINT", "ST_DistanceSphere", "to_jsonb", "to_tsquery", "to_tsvector"]

def listTests : List String :=
  [HelperFunction.arrayContains, .arrayContainsAll, .arrayContainsAllRegex].map
    HelperFunction.name

/-- The values in a row and the meaning of the operations on them. What has no
value in the row is null there. -/
structure Valuation (V : Type) where
  column : String → Option V
  /-- The JSON that a dotted path leads to. -/
  path : String → Option V
  /-- JSON null has no text. -/
  asText : V → Option V
  constant : String → V
  datum : Datum → V
  array : List Datum → V
  cast : String → V → V
  call : String → List (Option V) → Option V
  isTrue : V → Bool
  relate : Relation → V → V → Bool
  call_strict : ∀ f ∈ strictFunctions, ∀ args, call f args = none ↔ none ∈ args
  call_listTest : ∀ f ∈ listTests, ∀ list values, call f [list, some values] ≠ none

namespace Valuation

variable {V : Type} (M : Valuation V)

def datum? (d : Datum) : Option V := if d.isNull then none else some (M.datum d)

def compare (relation : Relation) : Option V → Option V → Truth
  | some x, some y => .ofBool (M.relate relation x y)
  | _, _ => .unknown

variable {M}

theorem compare_eq_unknown {relation : Relation} {x y : Option V} :
    M.compare relation x y = .unknown ↔ x = none ∨ y = none := by
  cases x <;> cases y <;> simp [compare]

end Valuation

def Valuation.ComparesScalars {V : Type} (M : Valuation V) : Prop :=
  ∀ a b equal, Datum.equal? a b = some equal → M.relate .eq (M.datum a) (M.datum b) = equal

/-- A row of scalars without JSON, in which `=` and `<>` have their meaning. No
other relation and no function is taken to hold there. -/
def Valuation.ofRow (row : Row) : Valuation Datum where
  column name := (Entries.find? row name).filter (!·.isNull)
  path _ := none
  asText := some
  constant := .text
  datum d := d
  array _ := .textArray []
  cast _ d := d
  call f args := if f ∈ strictFunctions ∧ args.any Option.isNone then none else some (.bool false)
  isTrue
    | .bool b => b
    | _ => false
  relate
    | .eq, a, b => (a.equal? b).getD false
    | .ne, a, b => !(a.equal? b).getD false
    | _, _, _ => false
  call_strict f hf args := by simp [hf]
  call_listTest f hf list values := by
    have hother : f ∉ strictFunctions := by
      intro hstrict
      revert f
      decide
    simp [hother]

theorem Valuation.ofRow_comparesScalars (row : Row) : (ofRow row).ComparesScalars := by
  intro a b equal h
  simp [ofRow, h]

variable {V : Type} (M : Valuation V)

namespace Expr

def value : Expr → Option V
  | null => none
  | zero => some (M.constant "0")
  | quoted text => some (M.constant (literal text))
  | column name => M.column name
  | jsonAt field => M.path field
  | textAt field => (M.path field).bind M.asText
  | param d => M.datum? d
  | cast e type | castAs e type => (value e).map (M.cast type)
  | paren e => value e
  | keyText e key => M.call "->>" [value e, some (M.constant (literal key))]
  | array items => some (M.array items)
  | elements e => M.call "jsonb_array_elements_text" [value e]
  | combine operation a b => M.call operation [value a, value b]
  | apply function a => M.call function [value a]
  | apply₂ function a b => M.call function [value a, value b]
  | apply₃ function a b c => M.call function [value a, value b, value c]

end Expr

namespace Predicate

mutual

def truth : Predicate → Truth
  | always => .yes
  | isNull e => .ofBool (e.value M).isNone
  | isNotNull e => .ofBool (e.value M).isSome
  | holds e => ((e.value M).map fun x => Truth.ofBool (M.isTrue x)).getD .unknown
  | compare left relation right => M.compare relation (left.value M) (right.value M)
  | isIn e items => .any (items.map fun item => M.compare .eq (e.value M) (M.datum? item))
  | notIn e items => (Truth.any (items.map fun item => M.compare .eq (e.value M) (M.datum? item))).not
  | nearest distance (some limit) => M.compare .le (distance.value M) (M.datum? limit)
  | nearest distance none => .ofBool (distance.value M).isSome
  | not p => (truth p).not
  | and ps => .all (truths ps)
  | or ps => .any (truths ps)
  | paren p => truth p

def truths : List Predicate → List Truth
  | [] => []
  | p :: rest => truth p :: truths rest

end

mutual

def Judged (v : String → Truth) (next : Nat) : Predicate → Prop
  | not p | paren p => Judged v next p
  | and ps | or ps => JudgedAll v next ps
  | p => v (number next p.template) = p.truth M

def JudgedAll (v : String → Truth) (next : Nat) : List Predicate → Prop
  | [] => True
  | p :: rest => Judged v next p ∧ JudgedAll v (next + p.params.length) rest

end

variable {M} {v : String → Truth}

theorem judgedAll_append {next : Nat} {ps qs : List Predicate} :
    JudgedAll M v next (ps ++ qs) ↔
      JudgedAll M v next ps ∧ JudgedAll M v (next + (paramsAll ps).length) qs := by
  induction ps generalizing next with
  | nil => simp [JudgedAll, paramsAll]
  | cons p rest ih =>
    simp only [List.cons_append, JudgedAll, ih, paramsAll, List.length_append, Nat.add_assoc,
      and_assoc]

theorem IsAtom.judged {p : Predicate} (h : p.IsAtom) {next : Nat} :
    p.Judged M v next ↔ v (number next p.template) = p.truth M := by
  cases h with
  | _ => simp only [Judged]

theorem IsAtom.template_ne {p : Predicate} (h : p.IsAtom) (hp : p ≠ .always) :
    p.template ≠ "" ∧ p.template ≠ "TRUE" := by
  have hmem : ' ' ∈ p.template.toList ∨ '(' ∈ p.template.toList := by
    cases h with
    | always => exact absurd rfl hp
    | holds h =>
      right
      rw [template, Expr.template_apply₂]
      simp
    | @nearest distance limit h =>
      left
      cases limit with
      | _ => simp [template]
    | _ => exact .inl (by simp [template])
  constructor
  · intro heq
    rw [heq] at hmem
    exact absurd hmem (by decide)
  · intro heq
    rw [heq] at hmem
    exact absurd hmem (by decide)

theorem IsAtom.eval_operand {p : Predicate} (h : p.IsAtom) {next : Nat} (hj : p.Judged M v next) :
    ∃ f, IsOperand (numbered none next p.template.toList) f ∧ f.eval v = p.truth M := by
  by_cases hp : p = .always
  · subst hp
    exact ⟨.always, always_reads next, rfl⟩
  obtain ⟨word, rest, hsimple⟩ := h.isSimple
  have hnumbered := hsimple.numbered next
  have htext : String.ofList (joinWords (numbered none next word ::
      numberedWords (next + markerCount none word) rest)) = number next p.template := by
    rw [number, hnumbered.spells.joined]
  obtain ⟨hempty, htrue⟩ := h.template_ne hp
  have hne (constant : String) (hc : '$' ∉ constant.toList) (hd : p.template ≠ constant) :
      number next p.template ≠ constant := by
    intro heq
    have hlist : numbered none next p.template.toList = constant.toList := by
      rw [← heq, number_toList]
    exact hd (String.toList_inj.1 (eq_of_numbered hlist hc))
  refine ⟨_, hnumbered.isOperand, ?_⟩
  rw [atom, htext, if_neg (not_or.2 ⟨hne "" (by decide) hempty, hne "TRUE" (by decide) htrue⟩)]
  exact h.judged.1 hj

theorem IsFragment.eval_read {p : Predicate} (h : p.IsFragment) {next : Nat}
    (hj : p.Judged M v next) : (read (number next p.template)).eval v = p.truth M := by
  have hplain := h.isPlain
  suffices hoperand : ∃ f, IsOperand (numbered none next p.template.toList) f ∧
      f.eval v = p.truth M by
    obtain ⟨f, hf, heval⟩ := hoperand
    rw [← number_toList] at hf
    rw [hf.read_eq, heval]
  cases h with
  | atom h => exact h.eval_operand hj
  | @negated p h =>
    obtain ⟨f, hf, heval⟩ := h.eval_operand (by simpa only [Judged] using hj)
    refine ⟨.not f, not_isOperand hf, ?_⟩
    rw [Formula.eval, heval, truth]
  | @anyOf p q hp hq =>
    simp only [Judged, JudgedAll] at hj
    obtain ⟨f, hf, hfirst⟩ := hp.eval_operand hj.1
    obtain ⟨g, hg, hsecond⟩ := hq.eval_operand hj.2.1
    have htexts := List.Forall₂.cons hf.isConjunction (.cons hg.isConjunction .nil)
    refine ⟨_, or_isOperand (allPlain_iff.1 hplain) (by simp) htexts, ?_⟩
    simp only [List.map_cons, List.map_nil, Formula.all, Formula.any, Formula.eval, Formula.evals,
      truth, truths, hfirst, hsecond]
  | @allOf p q hp hq =>
    simp only [Judged, JudgedAll] at hj
    obtain ⟨f, hf, hfirst⟩ := hp.eval_operand hj.1
    obtain ⟨g, hg, hsecond⟩ := hq.eval_operand hj.2.1
    have htexts := List.Forall₂.cons hf.isConjunction (.cons hg.isConjunction .nil)
    refine ⟨_, and_isOperand (allPlain_iff.1 hplain) (by simp) htexts, ?_⟩
    simp only [List.flatten_cons, List.flatten_nil, List.append_nil, List.singleton_append,
      Formula.all, Formula.eval, Formula.evals, truth, truths, hfirst, hsecond]

end Predicate

def Selects (v : String → Truth) (pattern : String) : Prop := (read pattern).eval v = .yes

end Sql
end DocSql
