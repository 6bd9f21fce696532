import DocSql.Proofs.Query.Connectives
import DocSql.Proofs.Query.Skipping

/-!
The tests of a clause and the conditions they become. Every test has a
condition of its own but for two kinds: a list is not excluded on a dotted
path, and several values at once are asked of arrays only. Whether a clause is
refused is settled for the clause, so such a test is refused where it stands
alone and is lost where another test stands beside it.
-/
namespace DocSql

open Sql (Filter Formula Predicate)

def Condition.parts : Condition → List Condition
  | operators tests => tests.map fun test => operators [test]
  | whole => [whole]

namespace Target

def produces (t : Target) : Operator → Bool
  | .notIn _ => !t.isDotted
  | .all items => t.isArray || items.length == 1
  | _ => true

def fires (t : Target) : Condition → Bool
  | .operators tests => tests.any t.produces
  | _ => true

def Gives (scope : Scope) (part : Target × Condition) (p : Predicate) : Prop :=
  part.1.conditions scope part.2 = .ok [p]

variable (scope : Scope) (t : Target)

theorem membership_isSome (items : List Json) (negated : Bool) :
    Yields (t.membership items negated) fun found => found.isSome = !(t.isDotted && negated) := by
  unfold membership
  dsimp only
  split
  next hdotted =>
    split
    next hnegated => exact .pure (by simp [hdotted, hnegated])
    next hnegated => exact .pure (by simp [hnegated])
  next hdotted =>
    split
    · exact (t.overlaps_yields items).bind fun _ _ => .pure (by simp [hdotted])
    · split
      · exact .pure (by simp [hdotted])
      · split
        · exact .pure (by simp [hdotted])
        · exact (t.scalarMembership_yields _ negated).bind fun _ _ => .pure (by simp [hdotted])

theorem containsAll_isSome (items : List Json) :
    Yields (t.containsAll items) fun found => found.isSome = (t.isArray || items.length == 1) := by
  unfold containsAll
  split
  next harray =>
    split
    · exact (Pattern.likeStarts_refuses items).bind fun _ _ => .pure (by simp [harray])
    · exact .pure (by simp [harray])
  next harray =>
    split
    · exact (Datum.pointerId_refuses _).bind fun _ _ => .pure (by simp)
    next hmany =>
      refine .pure ?_
      have hlength : items.length ≠ 1 := fun h => by
        obtain ⟨single, hsingle⟩ := List.length_eq_one_iff.1 h
        exact hmany single hsingle
      simp [harray, hlength]

theorem operator_isSome (op : Operator) :
    Yields (operator scope t op) fun found => found.isSome = t.produces op := by
  cases op with
  | ne value => exact .map ((t.differs_yields value).mono fun _ _ => rfl)
  | eq value =>
    cases value with
    | null => exact .ok rfl
    | bool _ | num _ | str _ | arr _ | obj _ =>
      exact .map ((t.equals_yields scope _).mono fun _ _ => rfl)
  | isIn items =>
    exact (t.membership_isSome items false).mono fun _ h => by simpa [produces] using h
  | notIn items =>
    exact (t.membership_isSome items true).mono fun _ h => by simpa [produces] using h
  | all items => exact t.containsAll_isSome items
  | present expected =>
    cases expected with
    | false => exact .ok rfl
    | true => exact .ok rfl
  | compare comparator value =>
    exact .map ((t.comparison_yields scope comparator value).mono fun _ _ => rfl)
  | containedBy _ | search _ | near _ _ | withinSphere _ _ | withinBox _ _ | withinPolygon _
    | covers _ | regex _ _ => exact .ok rfl

theorem operator_none {op : Operator} (h : t.produces op = false) :
    operator scope t op = .ok none := by
  cases op with
  | notIn items =>
    have hdotted : t.isDotted = true := by simpa [produces] using h
    change t.membership items true = .ok none
    unfold membership
    rw [if_pos hdotted]
    rfl
  | all items =>
    rw [produces, Bool.or_eq_false_iff, beq_eq_false_iff_ne] at h
    change t.containsAll items = .ok none
    unfold containsAll
    rw [if_neg (Bool.eq_false_iff.1 h.1)]
    split
    next single => exact absurd rfl h.2
    next => rfl
  | _ => cases h

theorem fires_single (op : Operator) : t.fires (.operators [op]) = t.produces op := by
  simp [fires]

theorem conditions_operators (tests : List Operator) : t.conditions scope (.operators tests) =
    (do return (← tests.mapM (operator scope t)).filterMap id) := rfl

theorem conditions_single {op : Operator} {found : Option Predicate}
    (h : operator scope t op = .ok found) :
    t.conditions scope (.operators [op]) = .ok found.toList := by
  rw [conditions_operators, List.mapM_cons, h]
  cases found with
  | none => rfl
  | some p => rfl

theorem conditions_none {tests : List Operator} (h : ∀ op ∈ tests, t.produces op = false) :
    t.conditions scope (.operators tests) = .ok [] := by
  induction tests with
  | nil => rfl
  | cons op rest ih =>
    have hop := t.operator_none scope (h op List.mem_cons_self)
    have hrest := ih fun other hother => h other (List.mem_cons_of_mem op hother)
    rw [conditions_operators] at hrest ⊢
    rw [List.mapM_cons, hop]
    cases hmade : rest.mapM (operator scope t) with
    | error e =>
      rw [hmade] at hrest
      cases hrest
    | ok found =>
      rw [hmade] at hrest
      exact hrest

theorem operators_give (tests : List Operator) :
    Yields (t.conditions scope (.operators tests)) fun found =>
      List.Forall₂ (Gives scope)
        (((Condition.operators tests).parts.map (t, ·)).filter fun part => part.1.fires part.2)
        found := by
  refine (Yields.mapM_forall₂ fun op _ => (t.operator_isSome scope op).made).bind
    fun results hall => .pure ?_
  dsimp only [Condition.parts]
  induction hall with
  | nil => exact .nil
  | @cons op result tests results hfirst _ ih =>
    obtain ⟨hmade, hsome⟩ := hfirst
    rw [List.map_cons, List.map_cons, List.filter_cons, List.filterMap_cons]
    dsimp only [id]
    rw [fires_single, ← hsome]
    have hgives := t.conditions_single scope hmade
    cases result with
    | none => exact ih
    | some p => exact .cons hgives ih

theorem conditions_give (condition : Condition) :
    Yields (t.conditions scope condition) fun found =>
      List.Forall₂ (Gives scope)
        ((condition.parts.map (t, ·)).filter fun part => part.1.fires part.2) found := by
  -- A condition without operators is the only part of itself.
  have hwhole {whole : Condition} (hp : whole.parts = [whole]) (hf : t.fires whole = true)
      (h : Yields (t.conditions scope whole) fun found => ∃ p, found = [p]) :
      Yields (t.conditions scope whole) fun found => List.Forall₂ (Gives scope)
        ((whole.parts.map (t, ·)).filter fun part => part.1.fires part.2) found := by
    refine h.made.mono fun found hfound => ?_
    obtain ⟨hmade, p, rfl⟩ := hfound
    rw [hp, List.map_singleton, List.filter_cons, if_pos hf]
    exact .cons hmade .nil
  cases condition with
  | operators tests => exact t.operators_give scope tests
  | null => exact hwhole rfl rfl (.ok ⟨_, rfl⟩)
  | scalar value =>
    exact hwhole rfl rfl ((t.equals_yields scope value.toJson).bind fun p _ => .pure ⟨p, rfl⟩)
  | pointer value =>
    refine hwhole rfl rfl ?_
    simp only [conditions]
    split
    · exact .pure ⟨_, rfl⟩
    · exact (Datum.pointerId_refuses value).bind fun id _ => .pure ⟨_, rfl⟩
  | date instant => exact hwhole rfl rfl (.ok ⟨_, rfl⟩)
  | geoPoint p => exact hwhole rfl rfl (.ok ⟨_, rfl⟩)
  | polygon value =>
    exact hwhole rfl rfl ((Ring.ofJson_refuses value).bind fun ring _ => .pure ⟨_, rfl⟩)

theorem clause_refused {condition : Condition} (hs : t.skips condition = false)
    (hf : t.fires condition = false) :
    t.clause scope condition = .error (.unsupported
      ("Postgres doesn't support this query type yet for field '" ++ t.name ++ "'")) := by
  cases condition with
  | operators tests =>
    have hnone : ∀ op ∈ tests, t.produces op = false := by simpa [fires] using hf
    have hempty := t.conditions_none scope hnone
    unfold clause
    rw [hs, hempty]
    rfl
  | null | scalar _ | pointer _ | date _ | geoPoint _ | polygon _ => cases hf

theorem clause_fires (condition : Condition) :
    Yields (t.clause scope condition) fun _ => t.skips condition ∨ t.fires condition := by
  cases hs : t.skips condition with
  | true =>
    unfold clause
    rw [hs]
    exact .pure (.inl rfl)
  | false =>
    cases hf : t.fires condition with
    | true => exact (Query.clause_covers scope t condition).mono fun _ _ => .inr rfl
    | false =>
      rw [t.clause_refused scope hs hf]
      exact .error rfl

end Target

def Scope.parts (scope : Scope) (field : String × Condition) : List (Target × Condition) :=
  if scope.skips field then [] else field.2.parts.map (scope.target field.1, ·)

namespace Query

def parts (scope : Scope) (query : Query) : List (Target × Condition) :=
  (fields query).flatMap scope.parts

/-- The leaves are the conditions of these tests, but for those that have none. -/
def Shown (scope : Scope) (tests : List (Target × Condition)) (leaves : List Predicate) : Prop :=
  List.Forall₂ (Target.Gives scope) (tests.filter fun part => part.1.fires part.2) leaves

variable (scope : Scope)

theorem Shown.append {scope : Scope} {tests more : List (Target × Condition)}
    {leaves others : List Predicate} (h : Shown scope tests leaves) (hm : Shown scope more others) :
    Shown scope (tests ++ more) (leaves ++ others) := by
  unfold Shown
  rw [List.filter_append]
  exact List.rel_append h hm

theorem leavesAll_map_leaf (found : List Predicate) :
    Formula.leavesAll (found.map .leaf) = found := by
  induction found with
  | nil => rfl
  | cons p rest ih =>
    rw [List.map_cons, Formula.leavesAll, Formula.leaves, ih, List.singleton_append]

theorem tree_shows (field : String × Condition) :
    Yields ((scope.target field.1).tree scope field.2) fun tree =>
      Shown scope (scope.parts field) tree.leaves := by
  unfold Target.tree Scope.parts Scope.skips
  split
  next h => exact .pure .nil
  next h =>
    refine ((scope.target field.1).conditions_give scope field.2).bind fun found hfound => .pure ?_
    rw [Formula.leaves, leavesAll_map_leaf]
    exact hfound

mutual

theorem clauseTree_shows : ∀ clause : Clause, Yields (clauseTree scope clause) fun tree =>
    Shown scope ((clauseFields clause).flatMap scope.parts) tree.leaves
  | .field name condition => by
    simp only [clauseTree, clauseFields, List.flatMap_singleton]
    exact tree_shows scope (name, condition)
  | .group kind queries => by
    simp only [clauseTree, clauseFields]
    refine (groupTrees_show queries).bind fun trees htrees => .pure ?_
    cases kind with
    | or | and | nor => simpa only [Group.formula, Formula.leaves] using htrees

theorem clauseTrees_show : ∀ query : List Clause, Yields (clauseTrees scope query) fun trees =>
    Shown scope (parts scope query) (Formula.leavesAll trees)
  | [] => .ok .nil
  | clause :: rest => by
    simp only [clauseTrees, parts, fields]
    refine (clauseTree_shows clause).bind fun tree htree => ?_
    refine (clauseTrees_show rest).bind fun trees htrees => .pure ?_
    rw [List.flatMap_append, Formula.leavesAll]
    exact htree.append htrees

theorem groupTrees_show : ∀ queries : List (List Clause), Yields (groupTrees scope queries)
    fun trees => Shown scope ((groupFields queries).flatMap scope.parts) (Formula.leavesAll trees)
  | [] => .ok .nil
  | query :: rest => by
    simp only [groupTrees, groupFields]
    refine (clauseTrees_show query).bind fun trees htrees => ?_
    refine (groupTrees_show rest).bind fun others hothers => .pure ?_
    rw [List.flatMap_append, Formula.leavesAll, Formula.leaves]
    exact htrees.append hothers

end

/-- A clause that is in the conditions: skipped, or at least one of its tests is there. -/
def Counted (scope : Scope) (field : String × Condition) : Prop :=
  scope.skips field ∨ (scope.target field.1).fires field.2

mutual

theorem clausePredicates_count : ∀ clause : Clause, Yields (clausePredicates scope clause)
    fun _ => ∀ field ∈ clauseFields clause, Counted scope field
  | .field name condition => by
    simp only [clausePredicates, clauseFields]
    refine ((scope.target name).clause_fires scope condition).mono fun _ h => ?_
    exact List.forall_mem_singleton.2 h
  | .group kind queries => by
    simp only [clausePredicates, clauseFields]
    exact (groupPredicates_count queries).bind fun _ h => .pure h

theorem predicates_count : ∀ query : List Clause, Yields (predicates scope query)
    fun _ => ∀ field ∈ fields query, Counted scope field
  | [] => .ok (by simp [fields])
  | clause :: rest => by
    simp only [predicates, fields]
    refine (clausePredicates_count clause).bind fun _ hfirst => ?_
    refine (predicates_count rest).bind fun _ hrest => .pure ?_
    exact List.forall_mem_append.2 ⟨hfirst, hrest⟩

theorem groupPredicates_count : ∀ queries : List (List Clause),
    Yields (groupPredicates scope queries) fun _ =>
      ∀ field ∈ groupFields queries, Counted scope field
  | [] => .ok (by simp [groupFields])
  | query :: rest => by
    simp only [groupPredicates, groupFields]
    refine (predicates_count query).bind fun _ hfirst => ?_
    refine (groupPredicates_count rest).bind fun _ hrest => .pure ?_
    exact List.forall_mem_append.2 ⟨hfirst, hrest⟩

end

/-- The leaves of a compiled query are the conditions of its tests, each test
that has one giving it in its turn, so no test is lost just where each of them
has one. A clause is refused only when none of its tests has one: what is not
excluded on a dotted path, or asked of a field that is no array, is lost next
to any test that has a condition. -/
theorem compile_keeps_tests_iff (query : Json) (first : Nat) :
    (Yields (compile scope query first) fun (filter, params) =>
      ∃ q asked, ofJson query = .ok q ∧ tree scope q = .ok asked ∧
        params = Predicate.paramsAll asked.leaves ∧
        (∃ f : Formula String, Sql.read filter.pattern = f.bind Sql.read ∧
          f.Agrees (asked.placed (max first 1))) ∧
        Shown scope (parts scope q) asked.leaves ∧
        (∀ field ∈ fields q, Counted scope field) ∧
        (asked.leaves.length = (parts scope q).length ↔
          ∀ part ∈ parts scope q, part.1.fires part.2)) ∧
    ∀ (t : Target) (condition : Condition), t.skips condition = false →
      t.fires condition = false → t.clause scope condition = .error (.unsupported
        ("Postgres doesn't support this query type yet for field '" ++ t.name ++ "'")) := by
  refine ⟨?_, fun t condition => t.clause_refused scope⟩
  refine (compile_yields scope query first).mono fun (filter, params) h => ?_
  obtain ⟨q, hq, found, hfound, -, rfl, rfl⟩ := h
  have hparts := (ofJson_yields query).result hq
  obtain ⟨trees, htrees, hconveys⟩ := (predicates_conveys scope q hparts).result hfound
  obtain ⟨f, hread, hagree⟩ := hconveys.pattern_reads (max first 1)
  have hshown := (clauseTrees_show scope q).result htrees
  have htree : tree scope q = .ok (.and trees) := by
    rw [tree, htrees]
    rfl
  have hcounted := (predicates_count scope q).result hfound
  refine ⟨q, .and trees, hq, htree, ?_, ⟨f, hread, ?_⟩, ?_, hcounted, ?_⟩
  · simpa only [Formula.leaves] using hconveys.params
  · simpa only [Formula.placed] using hagree
  · simpa only [Formula.leaves] using hshown
  · rw [Formula.leaves, ← hshown.length_eq, List.length_filter_eq_length_iff]

/-- A list excluded on a dotted path is refused by itself, and lost beside a comparison. -/
theorem excluded_path_lost :
    let scope := Scope.ofSchema { className := "Player", fields := [("profile", .object)] } ⟨0, 0⟩
    let bound : String × Json := ("$gt", .str "A")
    let excluded : String × Json := ("$nin", .arr [.str "Paris"])
    compile scope (.obj [("profile.city", .obj [excluded])]) 1 = .error (.unsupported
      "Postgres doesn't support this query type yet for field 'profile.city'") ∧
    compile scope (.obj [("profile.city", .obj [bound])]) 1 =
      .ok ({ pattern := "\"profile\"->>'city' > $1" }, [.text "A"]) ∧
    compile scope (.obj [("profile.city", .obj [bound, excluded])]) 1 =
      .ok ({ pattern := "\"profile\"->>'city' > $1" }, [.text "A"]) := by
  dsimp only
  have hname : Clause.IsFieldName "profile.city" := by decide +kernel
  rw [compile_single _ hname, compile_single _ hname, compile_single _ hname]
  exact ⟨by rfl, by rfl, by rfl⟩

end Query
end DocSql
