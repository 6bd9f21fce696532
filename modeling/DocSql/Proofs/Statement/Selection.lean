import DocSql.Proofs.Statement.Numbering
import Mathlib.Data.List.Nodup

/-!
Selecting documents. The projection, the condition and the page take the
positions from one on; between them stand the orderings, and those by distance
refer to positions of the condition again.
-/
namespace DocSql.Find

open Sql (Aligned Assembly Builder Filter Fragment IsClause Shows ShowsAll placeholders)

/-- Equal neighbours show the same numbers, so where all numbers differ they
show none. -/
theorem dropRepeats_shows {columns : List String} {found : List Nat} (h : ShowsAll columns found)
    (hn : found.Nodup) : ShowsAll (dropRepeats columns) found := by
  fun_induction dropRepeats columns generalizing found with
  | case1 a rest ih =>
    cases h with
    | @cons _ _ first more hfirst hmore =>
      cases hmore with
      | @cons _ _ second others hsecond hothers =>
        have hsame : first = second := by rw [← hfirst.numbers, hsecond.numbers]
        have hnone : first = [] := by
          rw [← hsame, ← List.append_assoc] at hn
          have hdisjoint := List.disjoint_of_nodup_append (List.Nodup.of_append_left hn)
          rw [List.eq_nil_iff_forall_not_mem]
          exact fun i hi => hdisjoint hi hi
        rw [hnone, List.nil_append] at hn ⊢
        exact ih (.cons hsecond hothers) hn
  | case2 a b rest hab ih =>
    cases h with
    | cons hfirst hmore => exact .cons hfirst (ih hmore (List.Nodup.of_append_right hn))
  | case3 short hshort => exact h

theorem identifiers_show (names : List String) :
    ShowsAll (names.map Sql.identifier) [] := by
  refine ShowsAll.nothing fun text htext => ?_
  obtain ⟨name, -, rfl⟩ := List.mem_map.1 htext
  exact Sql.identifier_shows name

theorem rank_aligned (language field term : String) : (rank language field term).IsAligned := by
  have hhead : "ts_rank_cd(to_tsvector(?::regconfig, ".toList =
      "ts_rank_cd(to_tsvector(".toList ++ ("?".toList ++ "::regconfig, ".toList) := rfl
  have htail : "), to_tsquery(?::regconfig, ?), 32) AS ".toList =
      "), to_tsquery(".toList ++ ("?".toList ++ ("::regconfig, ".toList ++
        ("?".toList ++ "), 32) AS ".toList))) := rfl
  have hend := Aligned.marker.joined (show Sql.isJoint "), 32) AS ".toList from rfl)
    (Sql.identifier_aligned scoreColumn)
  have hquery := Aligned.marker.joined (show Sql.isJoint "::regconfig, ".toList from rfl) hend
  have hfield := (Sql.identifier_aligned field).joined
    (show Sql.isJoint "), to_tsquery(".toList from rfl) hquery
  have hvector := Aligned.marker.joined (show Sql.isJoint "::regconfig, ".toList from rfl) hfield
  have hall := hvector.plain_append (show Sql.isPlain "ts_rank_cd(to_tsvector(".toList from rfl)
  unfold Fragment.IsAligned rank
  simp only [String.toList_append, hhead, htail, List.append_assoc, List.length_cons,
    List.length_nil]
  exact hall

theorem keyColumns_show (scope : Scope) (query : Query) (key : String) (b : Builder) :
    (keyColumns scope query key).Binds b fun texts params =>
      ShowsAll texts (List.range' b.next params.length) := by
  unfold keyColumns
  dsimp only
  split
  · exact .pure (identifiers_show [Schema.readPermissions, Schema.writePermissions])
  · split
    · split
      next field search _ =>
        have hrank := rank_aligned (search.language.getD scope.language) field search.term
        refine (Assembly.Binds.fragment_shows hrank).bind fun text params htext => .pure ?_
        rw [List.append_nil]
        exact .single htext
      next => exact .throw rfl
    · split
      · exact .pure (identifiers_show [key])
      · exact .pure .nil

theorem projection_shows (scope : Scope) (query : Query) (keys : Option (List String))
    (b : Builder) : (projection scope query keys).Binds b fun text params =>
      Shows text.toList (List.range' b.next params.length) := by
  unfold projection
  split
  next keys =>
    refine (Assembly.Binds.mapM_showsAll fun key _ b => keyColumns_show scope query key b).bind
      fun columns params hcolumns => .pure ?_
    rw [List.append_nil]
    have hkept := dropRepeats_shows hcolumns List.nodup_range'
    split
    next hempty =>
      rw [List.isEmpty_iff.1 hempty] at hkept
      generalize List.range' b.next params.length = found at hkept ⊢
      cases hkept with
      | nil => exact .plain rfl
    next => exact hkept.intercalate rfl
  next => exact .pure (.plain rfl)

theorem sortColumn_shows (key : String) : Shows (sortColumn key).toList [] := by
  unfold sortColumn
  split
  · exact Sql.identifier_shows _
  · split
    · exact Sql.identifier_shows _
    · split
      · exact Sql.identifier_shows _
      · split
        · exact Sql.jsonPath_shows key
        · exact Sql.identifier_shows key

def sortText (key : String × Direction) : String := sortColumn key.1 ++ " " ++ key.2.keyword

theorem sortText_shows (key : String × Direction) : Shows (sortText key).toList [] := by
  have hkeyword : Sql.isPlain key.2.keyword.toList := by
    cases key.2 <;> rfl
  unfold sortText
  simp only [String.toList_append, List.append_assoc]
  exact (sortColumn_shows key.1).joined rfl (.plain hkeyword)

theorem orderings_eq (filter : Filter) (sort : List (String × Direction)) :
    orderings filter sort = filter.sorts ++ sort.map sortText := rfl

def orderClause (order : List String) : String :=
  if order.isEmpty then "" else " ORDER BY " ++ String.intercalate ", " order

theorem orderClause_isClause {order : List String} {found : List Nat}
    (h : ShowsAll order found) : IsClause (orderClause order) found := by
  unfold orderClause
  split
  next hempty =>
    rw [List.isEmpty_iff.1 hempty] at h
    cases h with
    | nil => exact .empty
  next => exact .keyword rfl (h.intercalate rfl)

theorem countClause_isClause {keyword : String} (hk : Sql.isPlain keyword.toList)
    (count : Option Nat) (b : Builder) : (countClause keyword count).Binds b fun text params =>
      IsClause text (List.range' b.next params.length) := by
  unfold countClause
  split
  · exact .pure .empty
  next n =>
    have haligned : (Fragment.mk (" " ++ keyword ++ " ?")
        [.int (min (n : Int) Number.maxInt64)]).IsAligned := by
      unfold Fragment.IsAligned
      have hmark : " ?".toList = " ".toList ++ "?".toList := rfl
      simp only [String.toList_append, hmark, List.append_assoc]
      exact .plain_append rfl (.plain_append hk (.plain_append rfl .marker))
    refine (Assembly.Binds.fragment haligned).mono fun text params hmade => ?_
    obtain ⟨rfl, rfl⟩ := hmade
    refine ⟨Aligned.number_shows haligned b.next, ?_⟩
    rw [Sql.number_toList, Sql.startsWithDigit_numbered]
    simp only [String.toList_append, List.append_assoc]
    rfl

/-- How a selection refers to its parameters. Before and behind its orderings
every position comes once and in order, the requested orderings have none, and
each ordering by distance repeats the two positions of its center. -/
structure Refers (spheres : List Sphere) (s : Statement) : Prop where
  parts : ∃ (head tail : String) (distances keys : List String),
    s.sql = head ++ orderClause (distances ++ keys) ++ tail ∧
    placeholders s.sql =
      placeholders head ++ distances.flatMap placeholders ++ placeholders tail ∧
    placeholders head ++ placeholders tail = List.range' 1 s.params.length ∧
    List.Forall₂ (Sphere.Orders 1 s.params) spheres distances ∧
    ∀ key ∈ keys, placeholders key = []

theorem refers_of_parts {head tail : String} {distances keys : List String}
    {spheres : List Sphere} {params : List Datum} {m n : Nat}
    (hhead : Shows head.toList (List.range' 1 m)) (htail : IsClause tail (List.range' (1 + m) n))
    (hcount : params.length = m + n)
    (hdistances : List.Forall₂ (Sphere.Orders 1 params) spheres distances)
    (hkeys : ∀ key ∈ keys, Shows key.toList []) :
    Refers spheres ⟨head ++ orderClause (distances ++ keys) ++ tail, params⟩ := by
  have horder := orderClause_isClause ((Sphere.Orders.showsAll hdistances).append (.nothing hkeys))
  rw [List.append_nil] at horder
  have hall := htail.after (horder.after hhead)
  refine ⟨head, tail, distances, keys, rfl, ?_, ?_, hdistances, ?_⟩
  · rw [hhead.placeholders_eq, htail.shows.placeholders_eq]
    exact hall.placeholders_eq
  · rw [hhead.placeholders_eq, htail.shows.placeholders_eq, List.range'_append_1, ← hcount]
  · exact fun key hkey => (hkeys key hkey).placeholders_eq

theorem assemble_refers (scope : Scope) (query : Query) (options : Options) :
    (assemble scope query options).Binds (.startingAt 1) fun sql params =>
      Refers (Query.spheres scope query) ⟨sql, params⟩ := by
  unfold assemble
  refine (projection_shows scope query options.keys _).bind fun columns shown hcolumns => ?_
  refine (Query.filter_binds scope query _).bind fun filter tested hfilter => ?_
  refine (countClause_isClause rfl options.limit _).bind fun limit limited hlimit => ?_
  refine (countClause_isClause rfl options.skip _).bind fun offset skipped hoffset => .pure ?_
  have hpage := hlimit.append hoffset
  simp only [Builder.next_push, Builder.next_startingAt, Nat.max_self] at hcolumns hfilter hpage
  rw [List.range'_append_1, Nat.add_assoc] at hpage
  have hexplain : Sql.isPlain (if options.explain then
      "EXPLAIN (ANALYZE, FORMAT JSON) " else "").toList := by
    split <;> rfl
  have hhead : Shows ((if options.explain then "EXPLAIN (ANALYZE, FORMAT JSON) " else "") ++
      "SELECT " ++ columns ++ " FROM " ++ Sql.identifier scope.schema.className ++
      filter.whereClause).toList (List.range' 1 (shown.length + tested.length)) := by
    rw [← List.range'_append_1]
    refine (Filter.whereClause_isClause hfilter.shows).after ?_
    have htable : IsClause (" FROM " ++ Sql.identifier scope.schema.className) [] :=
      .keyword rfl (Sql.identifier_shows _)
    have hselect := htable.closing hcolumns
    rw [String.toList_append, String.toList_append] at hselect
    simp only [String.toList_append, List.append_assoc]
    exact .plain_append hexplain (.plain_append rfl hselect)
  have hdistances := hfilter.orders.imp fun sphere sort h => h.within (limited ++ skipped)
  rw [List.append_assoc] at hdistances
  have hcount : (shown ++ (tested ++ (limited ++ skipped))).length =
      shown.length + tested.length + (limited.length + skipped.length) := by
    simp only [List.length_append, Nat.add_assoc]
  have hkeys : ∀ key ∈ options.sort.map sortText, Shows key.toList [] := by
    intro key hkey
    obtain ⟨entry, -, rfl⟩ := List.mem_map.1 hkey
    exact sortText_shows entry
  have hparts := refers_of_parts hhead hpage hcount hdistances hkeys
  rw [← orderings_eq, orderClause, ← String.append_assoc] at hparts
  rwa [List.append_nil]

theorem statement_refers (scope : Scope) (query : Json) (options : Options) :
    Yields (statement scope query options) fun s =>
      ∃ q, Query.ofJson query = .ok q ∧ Refers (Query.spheres scope q) s := by
  unfold statement
  refine (Query.ofJson_refuses query).made.bind fun q hq => Assembly.Binds.statement ?_
  exact (assemble_refers scope q options).mono fun sql params h => ⟨q, hq.1, h⟩

theorem Refers.covers {spheres : List Sphere} {s : Statement} (h : Refers spheres s) (i : Nat) :
    i ∈ placeholders s.sql ↔ 1 ≤ i ∧ i ≤ s.params.length := by
  obtain ⟨head, tail, distances, keys, -, hall, hfresh, hdistances, -⟩ := h
  have hrange : (i ∈ placeholders head ∨ i ∈ placeholders tail) ↔
      1 ≤ i ∧ i ≤ s.params.length := by
    rw [← List.mem_append, hfresh, List.mem_range'_1]
    omega
  have hrepeated : i ∈ distances.flatMap placeholders → 1 ≤ i ∧ i ≤ s.params.length := by
    intro hi
    obtain ⟨sort, hsort, hi⟩ := List.mem_flatMap.1 hi
    obtain ⟨k, hk, rfl⟩ := List.getElem_of_mem hsort
    obtain ⟨j, hj, -, hfound, -, hlast⟩ := hdistances.get (hdistances.length_eq ▸ hk) hk
    obtain ⟨hlt, -⟩ := List.getElem?_eq_some_iff.1 hlast
    rw [List.get_eq_getElem] at hfound
    rw [hfound] at hi
    simp only [List.mem_cons, List.not_mem_nil, or_false] at hi
    omega
  rw [hall, List.mem_append, List.mem_append, ← hrange]
  constructor
  · rintro ((hi | hi) | hi)
    · exact .inl hi
    · exact hrange.2 (hrepeated hi)
    · exact .inr hi
  · rintro (hi | hi)
    · exact .inl (.inl hi)
    · exact .inr hi

end DocSql.Find

namespace DocSql

open Sql (placeholders)

/-- No statement on documents has a parameter without a placeholder or a
placeholder without a parameter, and planning one never fails internally. All
but selections number their parameters from left to right; a selection does so
around its orderings, of which those by distance repeat positions. -/
theorem document_statements_numbered (scope : Scope) (schema : Schema) (document : Entries Json)
    (query update : Json) (field : String) (options : Find.Options) :
    Yields (Insert.statement schema document) Statement.InOrder ∧
    Yields (Update.statement scope query update) Statement.InOrder ∧
    Yields (Query.deleteStatement scope query) Statement.InOrder ∧
    Yields (Query.countStatement scope query) Statement.InOrder ∧
    Yields (Distinct.plan scope query field) (fun plan => plan.statement.InOrder) ∧
    Yields (Find.statement scope query options) fun s =>
      (∀ i, i ∈ placeholders s.sql ↔ 1 ≤ i ∧ i ≤ s.params.length) ∧
      ∃ q, Query.ofJson query = .ok q ∧ Find.Refers (Query.spheres scope q) s := by
  refine ⟨Insert.statement_inOrder schema document, Update.statement_inOrder scope query update,
    Query.deleteStatement_inOrder scope query, Query.countStatement_inOrder scope query,
    Distinct.plan_inOrder scope query field, ?_⟩
  refine (Find.statement_refers scope query options).mono fun s h => ?_
  obtain ⟨q, hq, hrefers⟩ := h
  exact ⟨hrefers.covers, q, hq, hrefers⟩

end DocSql
