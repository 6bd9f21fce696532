import DocSql.Proofs.Query.Skipping

/-!
The text searches of a query and those of its conditions. Only the search
operator matches a text, and groups keep the order of their queries, so the
conditions search for what the clauses that are kept search for, in their order.
-/
namespace DocSql

open Sql (Expr Predicate)

namespace Sql.Predicate

mutual

def textSearches : Predicate → List (Expr × Expr)
  | compare left relation right => if relation = .matchesText then [(left, right)] else []
  | not p | paren p => textSearches p
  | and ps | or ps => textSearchesAll ps
  | _ => []

def textSearchesAll : List Predicate → List (Expr × Expr)
  | [] => []
  | p :: rest => textSearches p ++ textSearchesAll rest

end

def IsSearchless (p : Predicate) : Prop := p.textSearches = []

theorem textSearchesAll_append (ps qs : List Predicate) :
    textSearchesAll (ps ++ qs) = textSearchesAll ps ++ textSearchesAll qs := by
  induction ps with
  | nil => rfl
  | cons p rest ih => simp only [List.cons_append, textSearchesAll, ih, List.append_assoc]

theorem textSearchesAll_single (p : Predicate) : textSearchesAll [p] = p.textSearches :=
  List.append_nil _

theorem textSearchesAll_group (kind : Group) (parts : List Predicate) :
    textSearchesAll [kind.predicate parts] = textSearchesAll parts := by
  rw [textSearchesAll_single]
  cases kind with
  | or | and | nor => simp only [Group.predicate, textSearches]

theorem textSearchesAll_conjunction (conjuncts : List Predicate) :
    textSearchesAll [Query.conjunction conjuncts] = textSearchesAll conjuncts := by
  rw [textSearchesAll_single]
  cases conjuncts with
  | nil => rfl
  | cons p rest => simp only [Query.conjunction, List.isEmpty_cons, Bool.false_eq_true, if_false,
      textSearches]

end Sql.Predicate

namespace Target

open Sql.Predicate (IsSearchless textSearchesAll)

def searchSides (language : String) (column : Expr) (term : String) : Expr × Expr :=
  let language := Expr.cast (.text language) "regconfig"
  (.apply₂ "to_tsvector" language column, .apply₂ "to_tsquery" language (.text term))

variable (scope : Scope) (t : Target)

def sidesOf (search : TextSearch) : Expr × Expr :=
  searchSides (search.language.getD scope.language) t.column search.term

theorem equals_searchless (value : Json) : Yields (equals scope t value) IsSearchless := by
  unfold equals
  refine (rejectRelativeTime_refuses value).bind fun _ _ => ?_
  have hplain : Yields (do return Predicate.compare t.column .eq (.param (← t.operand value)))
      IsSearchless :=
    (t.operand_refuses value).bind fun _ _ => .pure rfl
  dsimp only
  split
  · exact (t.dottedOperand_yields value).bind fun _ _ => .pure rfl
  · split
    · exact .pure rfl
    · split
      · exact .pure rfl
      · split
        · exact .pure rfl
        · exact hplain
      · exact hplain

theorem differs_searchless (value : Json) : Yields (t.differs value) IsSearchless := by
  unfold differs
  refine (rejectRelativeTime_refuses value).bind fun _ _ => ?_
  dsimp only
  split
  · exact .pure rfl
  · split
    · exact .pure rfl
    · split
      · exact (GeoPoint.ofJson_refuses value).bind fun _ _ => .pure rfl
      · exact (t.sides_yields value).bind fun _ _ => .pure rfl

theorem overlaps_searchless (items : List Json) : Yields (t.overlaps items) IsSearchless := by
  unfold overlaps
  refine (Yields.mapM fun item _ => Datum.infer_refuses item).bind fun values _ => ?_
  dsimp only
  split
  · exact .pure rfl
  · split
    · exact .pure rfl
    · exact .pure rfl

theorem scalarMembership_searchless (items : List Json) (negated : Bool) :
    Yields (t.scalarMembership items negated) IsSearchless := by
  unfold scalarMembership
  refine (Yields.mapM fun item _ => t.operand_refuses item).bind fun values _ => ?_
  dsimp only
  split
  · cases negated with
    | true | false => exact .pure rfl
  · split
    all_goals exact .pure rfl

theorem membership_searchless (items : List Json) (negated : Bool) :
    Yields (t.membership items negated) fun found => textSearchesAll found.toList = [] := by
  unfold membership
  dsimp only
  split
  · split
    · exact .pure rfl
    · exact .pure rfl
  · split
    · exact (t.overlaps_searchless items).bind fun p hp =>
        .pure ((Predicate.textSearchesAll_single p).trans hp)
    · cases negated with
      | true | false =>
        split
        · exact .pure rfl
        · split
          · exact .pure rfl
          · exact (t.scalarMembership_searchless _ _).bind fun p hp =>
              .pure ((Predicate.textSearchesAll_single p).trans hp)

theorem containsAll_searchless (items : List Json) :
    Yields (t.containsAll items) fun found => textSearchesAll found.toList = [] := by
  unfold containsAll
  split
  · split
    · exact (Pattern.likeStarts_refuses items).bind fun _ _ => .pure rfl
    · exact .pure rfl
  · split
    · exact (Datum.pointerId_refuses _).bind fun _ _ => .pure rfl
    · exact .pure rfl

theorem comparison_searchless (comparator : Comparator) (value : Json) :
    Yields (comparison scope t comparator value) IsSearchless := by
  unfold comparison
  dsimp only
  split
  · refine (t.sides_yields value).bind fun _ _ => .pure ?_
    cases comparator with
    | gt | gte | lt | lte => rfl
  · split
    · exact .throw_bind rfl
    · split
      · refine (Timestamp.Relative.resolve_refuses _ _).bind fun _ _ => .pure ?_
        cases comparator with
        | gt | gte | lt | lte => rfl
      · exact .throw rfl

theorem operator_searches (op : Operator) : Yields (operator scope t op) fun found =>
    textSearchesAll found.toList = op.search?.toList.map (t.sidesOf scope) := by
  have hsilent {work : Except Error Predicate} (h : Yields work IsSearchless) :
      Yields (some <$> work) fun found => textSearchesAll found.toList = [] :=
    .map (h.mono fun p hp => (Predicate.textSearchesAll_single p).trans hp)
  cases op with
  | ne value => exact hsilent (t.differs_searchless value)
  | eq value =>
    cases value with
    | null => exact .ok rfl
    | bool _ | num _ | str _ | arr _ | obj _ => exact hsilent (t.equals_searchless scope _)
  | isIn items => exact t.membership_searchless items false
  | notIn items => exact t.membership_searchless items true
  | all items => exact t.containsAll_searchless items
  | present expected =>
    cases expected with
    | false | true => exact .ok rfl
  | compare comparator value => exact hsilent (t.comparison_searchless scope comparator value)
  | regex pattern options =>
    refine .ok ?_
    unfold matchesPattern
    dsimp only
    split
    · rfl
    · rfl
  | search _ | containedBy _ | near _ _ | withinSphere _ _ | withinBox _ _ | withinPolygon _
    | covers _ => exact .ok rfl

end Target

def Condition.searches : Condition → List TextSearch
  | operators tests => tests.filterMap Operator.search?
  | _ => []

theorem Condition.search?_eq (condition : Condition) :
    condition.search? = condition.searches.head? := by
  cases condition with
  | operators tests => exact List.head?_filterMap.symm
  | null | scalar _ | pointer _ | date _ | geoPoint _ | polygon _ => rfl

namespace Target

open Sql.Predicate (textSearchesAll)

variable (scope : Scope) (t : Target)

theorem operators_search (tests : List Operator) :
    Yields (tests.mapM (operator scope t)) fun found =>
      textSearchesAll (found.filterMap id) =
        (tests.filterMap Operator.search?).map (t.sidesOf scope) := by
  refine (Yields.mapM_forall₂ fun op _ => t.operator_searches scope op).mono fun found hall => ?_
  induction hall with
  | nil => rfl
  | @cons op p tests found hp _ ih =>
    have htests : (op :: tests).filterMap Operator.search? =
        op.search?.toList ++ tests.filterMap Operator.search? := by
      cases h : op.search? <;> simp [h]
    have hfound : (p :: found).filterMap id = p.toList ++ found.filterMap id := by
      cases p <;> simp
    rw [htests, hfound, Predicate.textSearchesAll_append, List.map_append, hp, ih]

theorem conditions_search (condition : Condition) :
    Yields (t.conditions scope condition) fun found =>
      textSearchesAll found = condition.searches.map (t.sidesOf scope) := by
  cases condition with
  | operators tests => exact (t.operators_search scope tests).bind fun _ hfound => .pure hfound
  | scalar value =>
    exact (t.equals_searchless scope value.toJson).bind fun p hp =>
      .pure ((Predicate.textSearchesAll_single p).trans hp)
  | pointer value =>
    simp only [conditions]
    split
    · exact .pure rfl
    · exact (Datum.pointerId_refuses value).bind fun _ _ => .pure rfl
  | polygon value => exact (Ring.ofJson_refuses value).bind fun _ _ => .pure rfl
  | null | date _ | geoPoint _ => exact .ok rfl

end Target

def searchesOf (clauses : List (String × Condition)) : List (String × TextSearch) :=
  clauses.flatMap fun clause => clause.2.searches.map (clause.1, ·)

theorem searchesOf_append (clauses more : List (String × Condition)) :
    searchesOf (clauses ++ more) = searchesOf clauses ++ searchesOf more := List.flatMap_append

theorem searchesOf_single (clause : String × Condition) :
    searchesOf [clause] = clause.2.searches.map (clause.1, ·) := List.flatMap_singleton _ _

theorem searchesOf_filter {keep : String × Condition → Bool} {clauses : List (String × Condition)}
    (h : ∀ clause ∈ clauses, keep clause = false → clause.2.searches = []) :
    searchesOf (clauses.filter keep) = searchesOf clauses := by
  induction clauses with
  | nil => rfl
  | cons clause rest ih =>
    have hrest := ih fun other hother => h other (List.mem_cons_of_mem clause hother)
    cases hkeep : keep clause with
    | true =>
      rw [List.filter_cons_of_pos hkeep]
      exact congrArg (clause.2.searches.map (clause.1, ·) ++ ·) hrest
    | false =>
      have hnone := h clause List.mem_cons_self hkeep
      rw [List.filter_cons_of_neg (by simp [hkeep]), hrest]
      simp [searchesOf, hnone]

namespace Query

open Sql.Predicate (textSearchesAll)

mutual

theorem clauseSearch?_eq : ∀ clause : Clause,
    clause.search? = (searchesOf (clauseFields clause)).head?
  | .field name condition => by
    simp only [Clause.search?, clauseFields]
    rw [searchesOf_single, List.head?_map, condition.search?_eq]
  | .group kind queries => by
    simp only [Clause.search?, clauseFields]
    exact searchAny?_eq queries

theorem search?_eq : ∀ query : List Clause, search? query = (searchesOf (fields query)).head?
  | [] => rfl
  | clause :: rest => by
    simp only [search?, fields]
    rw [searchesOf_append, List.head?_append, clauseSearch?_eq clause, search?_eq rest]

theorem searchAny?_eq : ∀ queries : List (List Clause),
    searchAny? queries = (searchesOf (groupFields queries)).head?
  | [] => rfl
  | query :: rest => by
    simp only [searchAny?, groupFields]
    rw [searchesOf_append, List.head?_append, search?_eq query, searchAny?_eq rest]

end

variable (scope : Scope)

def sidesOn (search : String × TextSearch) : Expr × Expr :=
  (scope.target search.1).sidesOf scope search.2

/-- The conditions search for what the clauses among these that are kept search for. -/
def Searches (clauses : List (String × Condition)) (found : List Predicate) : Prop :=
  textSearchesAll found = (searchesOf (clauses.filter (!scope.skips ·))).map (sidesOn scope)

theorem Searches.append {scope : Scope} {clauses more : List (String × Condition)}
    {found rest : List Predicate} (h : Searches scope clauses found)
    (hr : Searches scope more rest) : Searches scope (clauses ++ more) (found ++ rest) := by
  unfold Searches at h hr ⊢
  rw [Predicate.textSearchesAll_append, h, hr, List.filter_append, searchesOf_append,
    List.map_append]

theorem clause_searches (name : String) (condition : Condition) :
    Yields ((scope.target name).clause scope condition) (Searches scope [(name, condition)]) := by
  unfold Target.clause Searches
  cases hs : scope.skips (name, condition) with
  | true =>
    have hskips : (scope.target name).skips condition = true := hs
    rw [hskips]
    refine .pure ?_
    simp [hs, searchesOf, textSearchesAll]
  | false =>
    have hskips : (scope.target name).skips condition = false := hs
    rw [hskips]
    refine ((scope.target name).conditions_search scope condition).bind fun found hfound => ?_
    split
    · exact .throw rfl
    · refine .pure ?_
      simp only [List.filter_cons, hs, List.filter_nil, Bool.not_false, if_true]
      rw [hfound, searchesOf_single, List.map_map]
      rfl

mutual

theorem clausePredicates_search : ∀ clause : Clause,
    Yields (clausePredicates scope clause) (Searches scope (clauseFields clause))
  | .field name condition => by
    simp only [clausePredicates, clauseFields]
    exact clause_searches scope name condition
  | .group kind queries => by
    simp only [clausePredicates, clauseFields]
    refine (groupPredicates_search queries).bind fun parts hparts => .pure ?_
    exact (Predicate.textSearchesAll_group kind parts).trans hparts

theorem predicates_search : ∀ query : List Clause,
    Yields (predicates scope query) (Searches scope (fields query))
  | [] => .ok rfl
  | clause :: rest => by
    simp only [predicates, fields]
    refine (clausePredicates_search clause).bind fun found hfound => ?_
    exact (predicates_search rest).bind fun more hmore => .pure (hfound.append hmore)

theorem groupPredicates_search : ∀ queries : List (List Clause),
    Yields (groupPredicates scope queries) (Searches scope (groupFields queries))
  | [] => .ok rfl
  | query :: rest => by
    simp only [groupPredicates, groupFields]
    refine (predicates_search query).bind fun found hfound => ?_
    refine (groupPredicates_search rest).bind fun parts hparts => .pure ?_
    exact Searches.append ((Predicate.textSearchesAll_conjunction found).trans hfound) hparts

end

theorem first_search_of_predicates (query : Query) : Yields (predicates scope query) fun found =>
    (textSearchesAll found).head? = (search? (kept scope query)).map (sidesOn scope) := by
  refine (predicates_search scope query).mono fun found hfound => ?_
  rw [hfound, List.head?_map, search?_eq, fields_kept]

theorem search?_kept {scope : Scope} {query : Query}
    (h : ∀ clause ∈ skipped scope query, clause.2.searches = []) :
    search? (kept scope query) = search? query := by
  rw [search?_eq, search?_eq, fields_kept, searchesOf_filter]
  intro clause hclause hskips
  exact h clause (List.mem_filter.2 ⟨hclause, by simpa using hskips⟩)

end Query
end DocSql
