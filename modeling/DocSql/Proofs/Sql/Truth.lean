import Mathlib.Data.List.Forall2

/-!
The truth values of conditions and formulas over leaves that may have any of
them. A null makes a comparison unknown, and connectives pass it on where the
other operands do not decide.
-/
namespace DocSql.Sql

inductive Truth
  | no
  | unknown
  | yes
deriving DecidableEq, Inhabited

namespace Truth

def not : Truth → Truth
  | no => yes
  | unknown => unknown
  | yes => no

def and : Truth → Truth → Truth
  | no, _ => no
  | yes, b => b
  | unknown, no => no
  | unknown, _ => unknown

def or : Truth → Truth → Truth
  | yes, _ => yes
  | no, b => b
  | unknown, yes => yes
  | unknown, _ => unknown

theorem and_assoc (a b c : Truth) : (a.and b).and c = a.and (b.and c) := by
  cases a <;> cases b <;> cases c <;> rfl

theorem and_yes (a : Truth) : a.and yes = a := by
  cases a <;> rfl

theorem or_no (a : Truth) : a.or no = a := by
  cases a <;> rfl

def all (values : List Truth) : Truth := values.foldr and yes

def any (values : List Truth) : Truth := values.foldr or no

def ofBool (b : Bool) : Truth := if b then yes else no

@[simp] theorem ofBool_eq_yes {b : Bool} : ofBool b = yes ↔ b = true := by
  cases b <;> decide

@[simp] theorem ofBool_eq_no {b : Bool} : ofBool b = no ↔ b = false := by
  cases b <;> decide

@[simp] theorem ofBool_ne_unknown (b : Bool) : ofBool b ≠ unknown := by
  cases b <;> decide

@[simp] theorem not_eq_yes {a : Truth} : a.not = yes ↔ a = no := by
  cases a <;> decide

@[simp] theorem not_eq_unknown {a : Truth} : a.not = unknown ↔ a = unknown := by
  cases a <;> decide

theorem any_cons (a : Truth) (rest : List Truth) : any (a :: rest) = a.or (any rest) := rfl

theorem all_cons (a : Truth) (rest : List Truth) : all (a :: rest) = a.and (all rest) := rfl

theorem all_singleton (a : Truth) : all [a] = a := and_yes a

theorem any_pair_comm (a b : Truth) : any [a, b] = any [b, a] := by
  cases a <;> cases b <;> rfl

theorem any_eq_yes {values : List Truth} : any values = yes ↔ yes ∈ values := by
  induction values with
  | nil => decide
  | cons a rest ih =>
    rw [any_cons, List.mem_cons, ← ih]
    cases a <;> cases any rest <;> decide

theorem any_eq_no {values : List Truth} : any values = no ↔ ∀ a ∈ values, a = no := by
  induction values with
  | nil => simp [any]
  | cons a rest ih =>
    rw [any_cons, List.forall_mem_cons, ← ih]
    cases a <;> cases any rest <;> decide

theorem all_eq_yes {values : List Truth} : all values = yes ↔ ∀ a ∈ values, a = yes := by
  induction values with
  | nil => simp [all]
  | cons a rest ih =>
    rw [all_cons, List.forall_mem_cons, ← ih]
    cases a <;> cases all rest <;> decide

theorem any_eq_unknown {values : List Truth} (hne : values ≠ [])
    (h : ∀ a ∈ values, a = unknown) : any values = unknown := by
  obtain ⟨first, hfirst⟩ := List.exists_mem_of_ne_nil values hne
  cases hany : any values with
  | unknown => rfl
  | yes => exact absurd (h _ (any_eq_yes.1 hany)) (by decide)
  | no => exact absurd ((h _ hfirst).symm.trans (any_eq_no.1 hany _ hfirst)) (by decide)

theorem any_ne_unknown {values : List Truth} (h : ∀ a ∈ values, a ≠ unknown) :
    any values ≠ unknown := by
  induction values with
  | nil => decide
  | cons a rest ih =>
    obtain ⟨ha, hrest⟩ := List.forall_mem_cons.1 h
    have hany := ih hrest
    rw [any_cons]
    cases a <;> cases hr : any rest <;> simp_all [or]

theorem all_ne_unknown {values : List Truth} (h : ∀ a ∈ values, a ≠ unknown) :
    all values ≠ unknown := by
  induction values with
  | nil => decide
  | cons a rest ih =>
    obtain ⟨ha, hrest⟩ := List.forall_mem_cons.1 h
    have hall := ih hrest
    rw [all_cons]
    cases a <;> cases hr : all rest <;> simp_all [and]

theorem all_append (values more : List Truth) :
    all (values ++ more) = (all values).and (all more) := by
  induction values with
  | nil => rfl
  | cons a rest ih =>
    simp only [all, List.cons_append, List.foldr_cons] at ih ⊢
    rw [ih, and_assoc]

end Truth

/-- Conditions by their connectives; leaves are conditions without any. -/
inductive Formula (Leaf : Type)
  | always
  | leaf (a : Leaf)
  | not (f : Formula Leaf)
  | and (fs : List (Formula Leaf))
  | or (fs : List (Formula Leaf))
deriving Inhabited

namespace Formula

variable {Leaf Other : Type}

mutual

def eval (v : Leaf → Truth) : Formula Leaf → Truth
  | always => .yes
  | leaf a => v a
  | not f => (eval v f).not
  | and fs => .all (evals v fs)
  | or fs => .any (evals v fs)

def evals (v : Leaf → Truth) : List (Formula Leaf) → List Truth
  | [] => []
  | f :: rest => eval v f :: evals v rest

end

mutual

def bind (g : Leaf → Formula Other) : Formula Leaf → Formula Other
  | always => always
  | leaf a => g a
  | not f => not (bind g f)
  | and fs => and (binds g fs)
  | or fs => or (binds g fs)

def binds (g : Leaf → Formula Other) : List (Formula Leaf) → List (Formula Other)
  | [] => []
  | f :: rest => bind g f :: binds g rest

end

mutual

def leaves : Formula Leaf → List Leaf
  | always => []
  | leaf a => [a]
  | not f => leaves f
  | and fs | or fs => leavesAll fs

def leavesAll : List (Formula Leaf) → List Leaf
  | [] => []
  | f :: rest => leaves f ++ leavesAll rest

end

theorem evals_append (v : Leaf → Truth) (fs gs : List (Formula Leaf)) :
    evals v (fs ++ gs) = evals v fs ++ evals v gs := by
  induction fs with
  | nil => rfl
  | cons f rest ih => rw [List.cons_append, evals, evals, ih, List.cons_append]

theorem binds_eq_map (g : Leaf → Formula Other) (fs : List (Formula Leaf)) :
    binds g fs = fs.map (bind g) := by
  induction fs with
  | nil => rfl
  | cons f rest ih => rw [binds, ih, List.map_cons]

theorem leavesAll_append (fs gs : List (Formula Leaf)) :
    leavesAll (fs ++ gs) = leavesAll fs ++ leavesAll gs := by
  induction fs with
  | nil => rfl
  | cons f rest ih => rw [List.cons_append, leavesAll, leavesAll, ih, List.append_assoc]

mutual

theorem eval_bind (v : Other → Truth) (g : Leaf → Formula Other) : ∀ f : Formula Leaf,
    (f.bind g).eval v = f.eval fun a => (g a).eval v
  | always => rfl
  | leaf _ => rfl
  | not f => by
    simp only [bind, eval]
    rw [eval_bind v g f]
  | and fs | or fs => by
    simp only [bind, eval]
    rw [evals_binds v g fs]

theorem evals_binds (v : Other → Truth) (g : Leaf → Formula Other) :
    ∀ fs : List (Formula Leaf), evals v (binds g fs) = evals (fun a => (g a).eval v) fs
  | [] => rfl
  | f :: rest => by
    simp only [binds, evals]
    rw [eval_bind v g f, evals_binds v g rest]

end

mutual

theorem eval_ne_unknown {v : Leaf → Truth} : ∀ f : Formula Leaf,
    (∀ a ∈ f.leaves, v a ≠ .unknown) → f.eval v ≠ .unknown
  | always, _ => by
    rw [eval]
    decide
  | leaf a, h => by
    rw [eval]
    exact h a (by simp [leaves])
  | not f, h => by
    rw [leaves] at h
    rw [eval, ne_eq, Truth.not_eq_unknown]
    exact eval_ne_unknown f h
  | and fs, h => by
    rw [leaves] at h
    rw [eval]
    exact Truth.all_ne_unknown (evals_ne_unknown fs h)
  | or fs, h => by
    rw [leaves] at h
    rw [eval]
    exact Truth.any_ne_unknown (evals_ne_unknown fs h)

theorem evals_ne_unknown {v : Leaf → Truth} : ∀ fs : List (Formula Leaf),
    (∀ a ∈ leavesAll fs, v a ≠ .unknown) → ∀ value ∈ evals v fs, value ≠ .unknown
  | [], _ => by simp [evals]
  | f :: rest, h => by
    rw [leavesAll, List.forall_mem_append] at h
    rw [evals, List.forall_mem_cons]
    exact ⟨eval_ne_unknown f h.1, evals_ne_unknown rest h.2⟩

end

def all : List (Formula Leaf) → Formula Leaf
  | [f] => f
  | fs => and fs

def any : List (Formula Leaf) → Formula Leaf
  | [f] => f
  | fs => or fs

theorem bind_all (g : Leaf → Formula Other) (fs : List (Formula Leaf)) :
    (all fs).bind g = all (fs.map (bind g)) := by
  match fs with
  | [] => rfl
  | [f] => rfl
  | f :: h :: rest =>
    simp only [all, bind, binds, List.map_cons]
    rw [binds_eq_map]

theorem bind_any (g : Leaf → Formula Other) (fs : List (Formula Leaf)) :
    (any fs).bind g = any (fs.map (bind g)) := by
  match fs with
  | [] => rfl
  | [f] => rfl
  | f :: h :: rest =>
    simp only [any, bind, binds, List.map_cons]
    rw [binds_eq_map]

/-- Formulas with the same leaves in the same order and the same value under
every assignment. -/
structure Agrees (f g : Formula Leaf) : Prop where
  leaves : f.leaves = g.leaves
  value : ∀ v, f.eval v = g.eval v

namespace Agrees

variable {f g h : Formula Leaf} {fs gs : List (Formula Leaf)}

theorem refl (f : Formula Leaf) : f.Agrees f := ⟨rfl, fun _ => rfl⟩

theorem trans (hf : f.Agrees g) (hg : g.Agrees h) : f.Agrees h :=
  ⟨hf.leaves.trans hg.leaves, fun v => (hf.value v).trans (hg.value v)⟩

theorem not (hf : f.Agrees g) : (Formula.not f).Agrees (.not g) := by
  refine ⟨?_, fun v => ?_⟩
  · rw [Formula.leaves, Formula.leaves, hf.leaves]
  · rw [eval, eval, hf.value]

theorem alone (f : Formula Leaf) : f.Agrees (.and [f]) := by
  refine ⟨?_, fun v => ?_⟩
  · simp [Formula.leaves, leavesAll]
  · simp only [eval, evals]
    exact (Truth.and_yes _).symm

theorem all_and (fs : List (Formula Leaf)) : (all fs).Agrees (.and fs) := by
  unfold all
  split
  · exact .alone _
  · exact .refl _

theorem any_or (fs : List (Formula Leaf)) : (any fs).Agrees (.or fs) := by
  unfold any
  split
  next f =>
    refine ⟨?_, fun v => ?_⟩
    · simp [Formula.leaves, leavesAll]
    · simp only [eval, evals]
      exact (Truth.or_no _).symm
  next => exact .refl _

theorem leavesAll_eq (h : List.Forall₂ Agrees fs gs) : leavesAll fs = leavesAll gs := by
  induction h with
  | nil => rfl
  | cons hf _ ih => rw [leavesAll, leavesAll, hf.leaves, ih]

theorem evals_eq (h : List.Forall₂ Agrees fs gs) (v : Leaf → Truth) : evals v fs = evals v gs := by
  induction h with
  | nil => rfl
  | cons hf _ ih => rw [evals, evals, hf.value, ih]

theorem and (h : List.Forall₂ Agrees fs gs) : (Formula.and fs).Agrees (.and gs) := by
  refine ⟨?_, fun v => ?_⟩
  · rw [Formula.leaves, Formula.leaves, leavesAll_eq h]
  · rw [eval, eval, evals_eq h]

theorem or (h : List.Forall₂ Agrees fs gs) : (Formula.or fs).Agrees (.or gs) := by
  refine ⟨?_, fun v => ?_⟩
  · rw [Formula.leaves, Formula.leaves, leavesAll_eq h]
  · rw [eval, eval, evals_eq h]

theorem append {others more : List (Formula Leaf)} (hf : (Formula.and fs).Agrees (.and gs))
    (hg : (Formula.and others).Agrees (.and more)) :
    (Formula.and (fs ++ others)).Agrees (.and (gs ++ more)) := by
  refine ⟨?_, fun v => ?_⟩
  · have hfirst := hf.leaves
    have hsecond := hg.leaves
    rw [Formula.leaves, Formula.leaves] at hfirst hsecond ⊢
    rw [leavesAll_append, leavesAll_append, hfirst, hsecond]
  · have hfirst := hf.value v
    have hsecond := hg.value v
    rw [eval, eval] at hfirst hsecond ⊢
    rw [evals_append, evals_append, Truth.all_append, Truth.all_append, hfirst, hsecond]

theorem flatten (fss : List (List (Formula Leaf))) :
    (Formula.and fss.flatten).Agrees (.and (fss.map .and)) := by
  induction fss with
  | nil => exact .refl _
  | cons fs rest ih =>
    rw [List.flatten_cons, List.map_cons]
    exact (alone (.and fs)).append ih

end Agrees
end Formula
end DocSql.Sql
