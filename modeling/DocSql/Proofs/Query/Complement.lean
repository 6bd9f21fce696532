import DocSql.Proofs.Query.Answers

/-!
`$or` and `$nor` in a row. The pattern of `$nor` is the negation of that of
`$or`, so they never select the same row, and leave a row to neither of them
just where a missing value keeps `$or` from having an answer.
-/
namespace DocSql

open Sql (Filter Formula Predicate Selects Truth Valuation)

theorem Sql.Filter.patternOf_single (next : Nat) (p : Predicate) :
    patternOf next [p] = number next p.template := by
  rw [patternOf, Predicate.template, Predicate.templates, Predicate.templates,
    String.intercalate_singleton]
  rfl

theorem Sql.Predicate.number_not (p : Predicate) (next : Nat) :
    number next (not p).template = "NOT " ++ number next p.template := by
  apply String.toList_inj.1
  rw [String.toList_append, number_toList, number_toList, numbered_not]

/-- The filter of the rows that the condition is false in. -/
def Sql.Filter.negated (filter : Filter) : Filter :=
  { filter with pattern := "NOT " ++ filter.pattern }

theorem Target.Gives.unknownIf (scope : Scope) {V : Type} (M : Valuation V) {part : Target × Condition}
    {p : Predicate} (h : Target.Gives scope part p) :
    p.UnknownIf M (part.1.conditionOpen M part.2) := by
  have hfound := (Target.conditions_answer M scope (t := part.1) part.2).result h
  simpa [Target.FoundUnknownIf, Predicate.UnknownIf] using hfound

namespace Query

variable (scope : Scope)

def grouped (kind : Group) (queries : List Json) : Json := .obj [(kind.key, .arr queries)]

theorem ofJson_grouped (kind : Group) {item : Json} {items : List Json} :
    ofJson (grouped kind (item :: items)) =
      (fun queries => [.group kind queries]) <$> ofList (item :: items) := by
  have hkey : Group.ofKey? kind.key = some kind := by
    cases kind with
    | _ => rfl
  simp only [grouped, ofJson, ofMembers, hkey, ofItems]
  cases ofList (item :: items) with
  | error e => rfl
  | ok queries => rfl

theorem compile_grouped_nonempty {kind : Group} {queries : List Json} {first : Nat}
    {made : Filter × List Datum} (h : compile scope (grouped kind queries) first = .ok made) :
    queries ≠ [] := by
  rintro rfl
  rw [compile_eq] at h
  cases kind with
  | _ => cases h

theorem compile_grouped (kind : Group) {queries : List Json} (hne : queries ≠ []) (first : Nat) :
    compile scope (grouped kind queries) first = (do
      let parts ← groupPredicates scope (← ofList queries)
      let p := kind.predicate parts
      return (⟨Sql.number (max first 1) p.template, p.orderings (max first 1)⟩, p.params)) := by
  obtain ⟨item, items, rfl⟩ := List.exists_cons_of_ne_nil hne
  rw [compile_eq, ofJson_grouped]
  cases ofList (item :: items) with
  | error e => rfl
  | ok qs =>
    change (predicates scope [.group kind qs] >>= _) = (groupPredicates scope qs >>= _)
    rw [predicates_single, clausePredicates]
    cases groupPredicates scope qs with
    | error e => rfl
    | ok parts =>
      change Except.ok (Sql.Filter.mk (Sql.Filter.patternOf _ [_]) (_ ++ []), _ ++ []) = .ok _
      rw [Sql.Filter.patternOf_single, List.append_nil, List.append_nil]

theorem compile_nor {queries : List Json} (hne : queries ≠ []) (first : Nat) :
    compile scope (grouped .nor queries) first =
      (fun made => (made.1.negated, made.2)) <$> compile scope (grouped .or queries) first := by
  rw [compile_grouped scope _ hne, compile_grouped scope _ hne]
  cases ofList queries with
  | error e => rfl
  | ok qs =>
    change (groupPredicates scope qs >>= _) = _ <$> (groupPredicates scope qs >>= _)
    cases groupPredicates scope qs with
    | error e => rfl
    | ok parts =>
      exact congrArg (fun pattern => Except.ok (Sql.Filter.mk pattern _, _))
        (Predicate.number_not (Group.or.predicate parts) (max first 1))

theorem compile_grouped_reads {kind : Group} {queries : List Json} {first : Nat}
    {filter : Filter} {params : List Datum}
    (h : compile scope (grouped kind queries) first = .ok (filter, params)) :
    ∃ qs trees, ofList queries = .ok qs ∧ groupTrees scope qs = .ok trees ∧
      ∀ v, (Sql.read filter.pattern).eval v =
        ((kind.formula trees).placed (max first 1)).eval fun text => (Sql.read text).eval v := by
  obtain ⟨q, hq, hfilter⟩ := (compile_yields scope _ first).result h
  obtain ⟨asked, hasked, -, f, hread, hagree⟩ := hfilter.asks ((ofJson_yields _).result hq)
  obtain ⟨item, items, rfl⟩ := List.exists_cons_of_ne_nil (compile_grouped_nonempty scope h)
  rw [ofJson_grouped] at hq
  cases hqs : ofList (item :: items) with
  | error e =>
    rw [hqs] at hq
    cases hq
  | ok qs =>
    rw [hqs] at hq
    cases hq
    simp only [tree, clauseTrees, clauseTree] at hasked
    cases htrees : groupTrees scope qs with
    | error e =>
      rw [htrees] at hasked
      cases hasked
    | ok trees =>
      rw [htrees] at hasked
      cases hasked
      refine ⟨qs, trees, rfl, htrees, fun v => ?_⟩
      rw [hread, Formula.eval_bind, hagree.value]
      simp only [Formula.placed, Formula.placedAll, Formula.eval, Formula.evals,
        Truth.all_singleton]

theorem negated_eval {queries : List Json} {first : Nat} {filter : Filter} {params : List Datum}
    (h : compile scope (grouped .or queries) first = .ok (filter, params)) (v : String → Truth) :
    (Sql.read filter.negated.pattern).eval v = ((Sql.read filter.pattern).eval v).not := by
  have hnor := compile_nor scope (compile_grouped_nonempty scope h) first
  rw [h] at hnor
  obtain ⟨qs, trees, hqs, htrees, heval⟩ := compile_grouped_reads scope h
  obtain ⟨qs', trees', hqs', htrees', heval'⟩ := compile_grouped_reads scope hnor
  cases hqs.symm.trans hqs'
  cases htrees.symm.trans htrees'
  rw [heval, heval']
  simp only [Group.formula, Formula.placed, Formula.eval]

theorem selects_xor_iff {v : String → Truth} {pattern negated : String}
    (h : (Sql.read negated).eval v = ((Sql.read pattern).eval v).not) :
    Xor (Selects v pattern) (Selects v negated) ↔ (Sql.read pattern).eval v ≠ .unknown := by
  rw [Selects, Selects, h]
  cases (Sql.read pattern).eval v with
  | _ => simp [Xor, Truth.not]

/-- `$nor` compiles where `$or` does, to its negation. No row is selected by
both, and exactly one selects the row unless `$or` has no answer there. Its
answer is that of its tree, in which a test is unknown just where it has no
answer, so one of them selects every row in which all of the tests have one. -/
theorem nor_complements_or {queries : List Json} {first : Nat} {filter : Filter}
    {params : List Datum}
    (h : compile scope (grouped .or queries) first = .ok (filter, params)) :
    compile scope (grouped .nor queries) first = .ok (filter.negated, params) ∧
    (∀ v, ¬(Selects v filter.pattern ∧ Selects v filter.negated.pattern) ∧
      (Xor (Selects v filter.pattern) (Selects v filter.negated.pattern) ↔
        (Sql.read filter.pattern).eval v ≠ .unknown)) ∧
    ∃ q asked, ofJson (grouped .or queries) = .ok q ∧ tree scope q = .ok asked ∧
      ∀ (V : Type) (M : Valuation V) (v : String → Truth),
        Judged scope (grouped .or queries) first M v →
        (Sql.read filter.pattern).eval v = asked.eval (Predicate.truth M) ∧
        List.Forall₂ (fun part p => p.UnknownIf M (part.1.conditionOpen M part.2))
          ((parts scope q).filter fun part => part.1.fires part.2) asked.leaves ∧
        ((∀ part ∈ parts scope q, part.1.conditionOpen M part.2 = false) →
          Xor (Selects v filter.pattern) (Selects v filter.negated.pattern)) := by
  have hnegated := negated_eval scope h
  refine ⟨?_, fun v => ⟨?_, selects_xor_iff (hnegated v)⟩, ?_⟩
  · rw [compile_nor scope (compile_grouped_nonempty scope h), h]
    rfl
  · rw [Selects, Selects, hnegated v]
    cases (Sql.read filter.pattern).eval v with
    | _ => simp [Truth.not]
  obtain ⟨q, asked, hq, hasked, hshown, heval⟩ := (compile_evaluates scope _ first).result h
  refine ⟨q, asked, hq, hasked, fun V M v hj => ⟨heval V M v hj, ?_, fun hclosed => ?_⟩⟩
  · exact hshown.imp fun part p hgives => hgives.unknownIf scope M
  · rw [selects_xor_iff (hnegated v), heval V M v hj]
    refine Formula.eval_ne_unknown asked fun p hp hunknown => ?_
    obtain ⟨part, hpart, hgives⟩ := hshown.exists_test hp
    have hopen := (hgives.unknownIf scope M).1 hunknown
    rw [hclosed part hpart] at hopen
    cases hopen

/-- A name that differs is found in a row without a name, where the test has an answer. -/
theorem differing_name_complements :
    let queries : List Json :=
      [.obj [("name", .obj [("$ne", .str "x")])], .obj [("stock", .int 3)]]
    let filter : Filter := ⟨"((\"name\" <> $1 OR \"name\" IS NULL) OR \"stock\" = $2)", []⟩
    let row : Row := [("stock", .float (.ofInt 4))]
    let v : String → Truth := fun text =>
      if text = "\"name\" IS NULL" then .yes else if text = "\"stock\" = $2" then .no else .unknown
    compile .posts (grouped .or queries) 1 = .ok (filter, [.text "x", .int 3]) ∧
    Judged .posts (grouped .or queries) 1 (Valuation.ofRow row) v ∧
    Xor (Selects v filter.pattern) (Selects v filter.negated.pattern) := by
  intro queries filter row v
  have hname : Clause.IsFieldName "name" := by decide +kernel
  have hstock : Clause.IsFieldName "stock" := by decide +kernel
  have hlist : ofList queries =
      .ok [[.field "name" (.operators [.ne (.str "x")])],
        [.field "stock" (.scalar (.number (.int 3)))]] := by
    simp only [queries, ofList, ofJson_single hname, ofJson_single hstock]
    rfl
  have hmade : compile .posts (grouped .or queries) 1 = .ok (filter, [.text "x", .int 3]) := by
    rw [compile_grouped _ _ (by simp [queries]), hlist]
    rfl
  have hjudged : Judged .posts (grouped .or queries) 1 (Valuation.ofRow row) v := by
    intro q asked hq hasked
    rw [ofJson_grouped, hlist] at hq
    cases hq
    cases hasked
    refine ⟨⟨?_, ?_, trivial⟩, ?_, trivial⟩
    all_goals
      change (_ : Truth) = _
      decide +kernel
  refine ⟨hmade, hjudged, ?_⟩
  obtain ⟨-, -, q, asked, hq, -, hrow⟩ := nor_complements_or .posts hmade
  refine (hrow _ _ v hjudged).2.2 ?_
  rw [ofJson_grouped, hlist] at hq
  cases hq
  decide +kernel

/-- Equality has no answer in a row without a name, which is found neither way. -/
theorem missing_name_found_by_neither :
    let queries : List Json := [.obj [("name", .str "x")]]
    let filter : Filter := ⟨"(\"name\" = $1)", []⟩
    let v : String → Truth := fun _ => .unknown
    compile .posts (grouped .or queries) 1 = .ok (filter, [.text "x"]) ∧
    compile .posts (grouped .nor queries) 1 = .ok (filter.negated, [.text "x"]) ∧
    Judged .posts (grouped .or queries) 1 (Valuation.ofRow []) v ∧
    ¬Selects v filter.pattern ∧ ¬Selects v filter.negated.pattern := by
  intro queries filter v
  have hname : Clause.IsFieldName "name" := by decide +kernel
  have hlist : ofList queries = .ok [[.field "name" (.scalar (.string "x"))]] := by
    simp only [queries, ofList, ofJson_single hname]
    rfl
  refine ⟨?_, ?_, ?_, ?_⟩
  · rw [compile_grouped _ _ (by simp [queries]), hlist]
    rfl
  · rw [compile_grouped _ _ (by simp [queries]), hlist]
    rfl
  · intro q asked hq hasked
    rw [ofJson_grouped, hlist] at hq
    cases hq
    cases hasked
    refine ⟨?_, trivial⟩
    change (_ : Truth) = _
    decide +kernel
  · unfold Selects
    decide +kernel

end Query
end DocSql
