import DocSql.Proofs.Query.Productions
import DocSql.Proofs.Sql.Evaluation

/-!
The value of a compiled query in a row: that of its tree, each test with the
answer that its condition has there.
-/
namespace DocSql

open Sql (Filter Formula Predicate Truth Valuation)

variable {V : Type} {M : Valuation V} {v : String → Truth}

namespace Sql.Formula

mutual

theorem eval_placed {next : Nat} : ∀ f : Formula Predicate, (∀ p ∈ f.leaves, p.IsFragment) →
    Predicate.JudgedAll M v next f.leaves →
    (f.placed next).eval (fun text => (read text).eval v) = f.eval (Predicate.truth M)
  | always, _, _ => by simp only [placed, eval]
  | leaf p, h, hj => by
    simp only [leaves, Predicate.JudgedAll, and_true] at hj
    simp only [placed, eval]
    exact (h p (by simp [leaves])).eval_read hj
  | not f, h, hj => by
    simp only [leaves] at h hj
    simp only [placed, eval, eval_placed f h hj]
  | and fs, h, hj | or fs, h, hj => by
    simp only [leaves] at h hj
    simp only [placed, eval, evals_placed fs h hj]

theorem evals_placed {next : Nat} : ∀ fs : List (Formula Predicate),
    (∀ p ∈ leavesAll fs, p.IsFragment) → Predicate.JudgedAll M v next (leavesAll fs) →
    evals (fun text => (read text).eval v) (placedAll next fs) = evals (Predicate.truth M) fs
  | [], _, _ => by simp only [placedAll, evals]
  | f :: rest, h, hj => by
    simp only [leavesAll, List.forall_mem_append] at h
    simp only [leavesAll, Predicate.judgedAll_append] at hj
    simp only [placedAll, evals, eval_placed f h.1 hj.1, evals_placed rest h.2 hj.2]

end

end Sql.Formula

theorem Target.Gives.isFragment {scope : Scope} {part : Target × Condition} {p : Predicate}
    (h : Gives scope part p) : p.IsFragment :=
  ((part.1.conditions_yields scope part.2).result h).1 p (List.mem_singleton_self p)

def Scope.posts : Scope :=
  .ofSchema { className := "Post", fields := [("name", .string), ("stock", .number)] } ⟨0, 0⟩

namespace Query

theorem Shown.exists_test {scope : Scope} {tests : List (Target × Condition)}
    {leaves : List Predicate} (h : Shown scope tests leaves) {p : Predicate} (hp : p ∈ leaves) :
    ∃ part ∈ tests, Target.Gives scope part p := by
  unfold Shown at h
  obtain ⟨i, hi, rfl⟩ := List.getElem_of_mem hp
  have hlength : i < (tests.filter fun part => part.1.fires part.2).length := h.length_eq ▸ hi
  exact ⟨_, List.mem_of_mem_filter (List.getElem_mem hlength), h.get hlength hi⟩

theorem Shown.isFragment {scope : Scope} {tests : List (Target × Condition)}
    {leaves : List Predicate} (h : Shown scope tests leaves) : ∀ p ∈ leaves, p.IsFragment := by
  intro p hp
  obtain ⟨part, -, hgives⟩ := h.exists_test hp
  exact hgives.isFragment

theorem query_shows (scope : Scope) (query : Query) :
    Yields (tree scope query) fun asked => Shown scope (parts scope query) asked.leaves := by
  unfold tree
  refine (clauseTrees_show scope query).bind fun trees htrees => .pure ?_
  simpa only [Formula.leaves] using htrees

/-- The atoms of the pattern of a query have the truth values that they have in the row. -/
def Judged (scope : Scope) (query : Json) (first : Nat) (M : Valuation V) (v : String → Truth) :
    Prop :=
  ∀ q asked, ofJson query = .ok q → tree scope q = .ok asked →
    Predicate.JudgedAll M v (max first 1) asked.leaves

theorem compile_evaluates (scope : Scope) (query : Json) (first : Nat) :
    Yields (compile scope query first) fun (filter, _) =>
      ∃ q asked, ofJson query = .ok q ∧ tree scope q = .ok asked ∧
        Shown scope (parts scope q) asked.leaves ∧
        ∀ (V : Type) (M : Valuation V) (v : String → Truth), Judged scope query first M v →
          (Sql.read filter.pattern).eval v = asked.eval (Predicate.truth M) := by
  refine (compile_yields scope query first).mono fun (filter, params) h => ?_
  obtain ⟨q, hq, hfilter⟩ := h
  obtain ⟨asked, hasked, -, f, hread, hagree⟩ := hfilter.asks ((ofJson_yields query).result hq)
  have hshown := (query_shows scope q).result hasked
  refine ⟨q, asked, hq, hasked, hshown, fun V M v hj => ?_⟩
  rw [hread, Formula.eval_bind, hagree.value]
  exact Formula.eval_placed asked hshown.isFragment (hj q asked hq hasked)

section Test

variable (scope : Scope) {name : String} {value : Json} {condition : Condition} {p : Predicate}

theorem tree_test (hs : (scope.target name).skips condition = false)
    (hp : (scope.target name).conditions scope condition = .ok [p]) :
    tree scope [.field name condition] = .ok (.and [.and [.leaf p]]) := by
  have hleaf : (scope.target name).tree scope condition = .ok (.and [.leaf p]) := by
    unfold Target.tree
    rw [hs, hp]
    rfl
  rw [Scope.target] at hleaf
  rw [tree, clauseTrees, clauseTrees, clauseTree, hleaf]
  rfl

theorem judged_test (hn : Clause.IsFieldName name) (hc : Condition.ofJson value = .ok condition)
    (hs : (scope.target name).skips condition = false)
    (hp : (scope.target name).conditions scope condition = .ok [p]) {first : Nat}
    (hj : p.Judged M v (max first 1)) : Judged scope (.obj [(name, value)]) first M v := by
  intro q asked hq hasked
  rw [ofJson_single hn, hc] at hq
  cases hq
  cases (tree_test scope hs hp).symm.trans hasked
  exact ⟨hj, trivial⟩

theorem compile_test (hn : Clause.IsFieldName name) (hc : Condition.ofJson value = .ok condition)
    (hs : (scope.target name).skips condition = false)
    (hp : (scope.target name).conditions scope condition = .ok [p]) (first : Nat) :
    ∃ made, compile scope (.obj [(name, value)]) first = .ok made ∧
      ∀ (V : Type) (M : Valuation V) (v : String → Truth),
        Judged scope (.obj [(name, value)]) first M v →
        (Sql.read made.1.pattern).eval v = p.truth M := by
  have hclause : (scope.target name).clause scope condition = .ok [p] := by
    unfold Target.clause
    rw [hs, hp]
    rfl
  have hmade := compile_single scope hn value first
  rw [hc] at hmade
  change _ = ((scope.target name).clause scope condition >>= _) at hmade
  rw [hclause] at hmade
  refine ⟨_, hmade, fun V M v hj => ?_⟩
  obtain ⟨q, asked, hq, hasked, -, heval⟩ := (compile_evaluates scope _ first).result hmade
  rw [ofJson_single hn, hc] at hq
  cases hq
  cases (tree_test scope hs hp).symm.trans hasked
  rw [heval V M v hj]
  simp only [Formula.eval, Formula.evals, Truth.all_singleton]

end Test

end Query
end DocSql
