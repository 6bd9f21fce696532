import DocSql.Proofs.Json
import DocSql.Proofs.Query.Reading
import DocSql.Proofs.Refusals
import DocSql.Statement.Aggregate
import Mathlib.Data.List.Perm.Basic

/-!
Conditions of a match. Its specification says `_id` for `objectId`, and where
one of its levels says both, the two fall on one name and one condition is
lost. Main statement: `match_keeps_iff`.
-/
namespace DocSql.Aggregate

open Query (level_induction ofList_eq_mapM ofMembers_eq_mapM readMember)

/-- The members of a specification, or of one inside its groups. -/
inductive IsLevel : Json → List (String × Json) → Prop
  | own (members : List (String × Json)) : IsLevel (.obj members) members
  | inner {members level : List (String × Json)} {key : String} {kind : Group}
    {items : List Json} {item : Json} (hm : (key, .arr items) ∈ members)
    (hk : Group.ofKey? key = some kind) (hi : item ∈ items) (h : IsLevel item level) :
    IsLevel (.obj members) level

/-- No level of a specification has the identifier under both of its names. -/
def IsApart (spec : Json) : Prop :=
  ∀ level, IsLevel spec level → "_id" ∈ Entries.keys level → "objectId" ∉ Entries.keys level

theorem isApart_obj_iff {members : List (String × Json)} : IsApart (.obj members) ↔
    ("_id" ∈ Entries.keys members → "objectId" ∉ Entries.keys members) ∧
    ∀ key kind items, (key, .arr items) ∈ members → Group.ofKey? key = some kind →
      ∀ item ∈ items, IsApart item := by
  constructor
  · exact fun h => ⟨h members (.own members), fun _ _ _ hmember hkind item hitem level hlevel =>
      h level (.inner hmember hkind hitem hlevel)⟩
  · rintro ⟨hown, hinner⟩ level hlevel
    cases hlevel with
    | own => exact hown
    | inner hmember hkind hitem hlevel => exact hinner _ _ _ hmember hkind _ hitem level hlevel

/-- A clause for a member, which has the condition of the member under the name
of its key, or the group of its key over queries for what it lists. -/
inductive ClauseFor (R : Json → Query → Prop) : String × Json → Clause → Prop
  | field {key : String} {value : Json} {condition : Condition} (hk : Group.ofKey? key = none)
    (hc : Condition.ofJson value = .ok condition) :
    ClauseFor R (key, value) (.field (outputName key) condition)
  | group {key : String} {kind : Group} {items : List Json} {queries : List Query}
    (hk : Group.ofKey? key = some kind) (h : List.Forall₂ R items queries) :
    ClauseFor R (key, .arr items) (.group kind queries)

/-- At every level the query has one clause for each key of the specification. -/
inductive Keeps : Json → Query → Prop
  | object {members : List (String × Json)} {clauses query : Query}
    (h : List.Forall₂ (ClauseFor Keeps) members clauses) (hp : clauses.Perm query) :
    Keeps (.obj members) query

theorem Keeps.length_eq {members : List (String × Json)} {query : Query}
    (h : Keeps (.obj members) query) : members.length = query.length := by
  cases h with
  | object hclauses hperm => exact hclauses.length_eq.trans hperm.length_eq

def Reads (spec : Json) (query : Query) : Prop := Query.ofJson (renameId spec) = .ok query

def renameMember (member : String × Json) : String × Json :=
  (outputName member.1,
    if (Group.ofKey? member.1).isSome then renameItems member.2 else member.2)

theorem renameMembers_eq_map (members : List (String × Json)) :
    renameMembers members = members.map renameMember := by
  induction members with
  | nil => rfl
  | cons member rest ih => rw [renameMembers, ih, List.map_cons, renameMember]

theorem renameList_eq_map (items : List Json) : renameList items = items.map renameId := by
  induction items with
  | nil => rfl
  | cons item rest ih => rw [renameList, ih, List.map_cons]

theorem keys_renameMembers (members : List (String × Json)) :
    Entries.keys (renameMembers members) = (Entries.keys members).map outputName := by
  rw [renameMembers_eq_map, Entries.keys, Entries.keys, List.map_map, List.map_map]
  rfl

theorem ofKey?_outputName (key : String) : Group.ofKey? (outputName key) = Group.ofKey? key := by
  unfold outputName
  split
  next hid =>
    subst hid
    rfl
  · rfl

theorem ofItems_renamed {key : String} {value : Json} {queries : List Query}
    (h : Query.ofItems key (renameItems value) = .ok queries) :
    ∃ items, value = .arr items ∧ List.Forall₂ Reads items queries := by
  cases value with
  | arr items =>
    refine ⟨items, rfl, ?_⟩
    cases items with
    | nil => cases h
    | cons item rest =>
      rw [renameItems, renameList, Query.ofItems, ← renameList, renameList_eq_map,
        ofList_eq_mapM, mapM_eq_ok, List.forall₂_map_left_iff] at h
      exact h
  | null | bool _ | num _ | str _ | obj _ => cases h

theorem clauseFor_of_read {member : String × Json} {clause : Clause}
    (h : readMember (renameMember member) = .ok clause) : ClauseFor Reads member clause := by
  obtain ⟨key, value⟩ := member
  simp only [readMember, renameMember, ofKey?_outputName] at h
  cases hkey : Group.ofKey? key with
  | none =>
    rw [hkey] at h
    simp only [Option.isSome_none, Bool.false_eq_true, if_false] at h
    unfold Clause.ofField at h
    split at h
    · cases h
    · split at h
      · cases h
      · obtain ⟨condition, hcondition, rfl⟩ := map_eq_ok.1 h
        exact .field hkey hcondition
  | some kind =>
    rw [hkey] at h
    simp only [Option.isSome_some, if_true] at h
    obtain ⟨queries, hqueries, rfl⟩ := map_eq_ok.1 h
    obtain ⟨items, rfl, hitems⟩ := ofItems_renamed hqueries
    exact .group hkey hitems

theorem Reads.members {members : List (String × Json)} {query : Query}
    (h : Reads (.obj members) query) :
    List.Forall₂ (fun member clause => readMember member = .ok clause)
      (Entries.ofList (renameMembers members)) query := by
  rw [Reads, renameId, Json.object, Query.ofJson, ofMembers_eq_mapM] at h
  exact mapM_eq_ok.1 h

theorem ClauseFor.mono {R S : Json → Query → Prop} {member : String × Json} {clause : Clause}
    (h : ClauseFor R member clause)
    (hrs : ∀ kind items, Group.ofKey? member.1 = some kind → member.2 = .arr items →
      ∀ item ∈ items, ∀ query, R item query → S item query) : ClauseFor S member clause := by
  cases h with
  | field hk hc => exact .field hk hc
  | group hk h =>
    refine .group hk (((List.forall₂_and_left _ _).2 ⟨hrs _ _ hk rfl, h⟩).imp ?_)
    exact fun item query hitem => hitem.1 query hitem.2

theorem nodup_outputNames_iff {keys : List String} (h : keys.Nodup) :
    (keys.map outputName).Nodup ↔ ("_id" ∈ keys → "objectId" ∉ keys) := by
  rw [List.nodup_map_iff_inj_on h]
  constructor
  · intro hinj hid hobject
    exact absurd (hinj "_id" hid "objectId" hobject rfl) (by decide)
  · intro happart first hfirst second hsecond hsame
    unfold outputName at hsame
    split at hsame
    next hid =>
      subst hid
      split at hsame
      next hother => exact hother.symm
      next => exact absurd (hsame ▸ hsecond) (happart hfirst)
    next =>
      split at hsame
      next hother => exact absurd (hsame ▸ hfirst) (happart (hother ▸ hsecond))
      next => exact hsame

theorem keeps_of_isApart (spec : Json) (hread : spec.IsRead) (hapart : IsApart spec)
    {query : Query} (h : Reads spec query) : Keeps spec query := by
  induction spec using level_induction generalizing query with
  | other value hvalue =>
    cases value with
    | obj members => cases hvalue
    | null | bool _ | num _ | str _ | arr _ => cases h
  | object members ih =>
    obtain ⟨hsorted, hvalues⟩ := Json.isRead_obj_iff.1 hread
    obtain ⟨hown, hinner⟩ := isApart_obj_iff.1 hapart
    have hnodup : (Entries.keys (renameMembers members)).Nodup := by
      rw [keys_renameMembers]
      exact (nodup_outputNames_iff (Entries.keys_nodup hsorted)).2 hown
    obtain ⟨clauses, hclauses, hperm⟩ :=
      List.perm_comp_forall₂ (Entries.ofList_perm hnodup).symm h.members
    rw [renameMembers_eq_map, List.forall₂_map_left_iff] at hclauses
    refine .object (((List.forall₂_and_left members clauses).2
      ⟨fun member hmember => hmember, hclauses⟩).imp ?_) hperm
    rintro member clause ⟨hmember, hclause⟩
    refine (clauseFor_of_read hclause).mono ?_
    intro kind items hkind hitems item hitem query hquery
    have hlisted : (member.1, Json.arr items) ∈ members := hitems ▸ hmember
    exact ih _ items hlisted item hitem (Json.isRead_arr_iff.1 (hvalues _ hlisted) item hitem)
      (hinner _ kind items hlisted hkind item hitem) hquery

theorem ofKey?_inj {key other : String} {kind : Group} (hk : Group.ofKey? key = some kind)
    (ho : Group.ofKey? other = some kind) : key = other := by
  rw [← Group.ofKey?_eq_some_iff.1 hk, ← Group.ofKey?_eq_some_iff.1 ho]

theorem exists_of_mem_left {α β : Type} {R : α → β → Prop} {items : List α} {others : List β}
    (h : List.Forall₂ R items others) {a : α} (ha : a ∈ items) : ∃ b ∈ others, R a b := by
  induction h with
  | nil => cases ha
  | cons hfirst _ ih =>
    rcases List.mem_cons.1 ha with rfl | hrest
    · exact ⟨_, List.mem_cons_self, hfirst⟩
    · obtain ⟨b, hb, hrel⟩ := ih hrest
      exact ⟨b, List.mem_cons_of_mem _ hb, hrel⟩

theorem Reads.group {members : List (String × Json)} {query : Query} {key : String} {kind : Group}
    {items : List Json} {queries : List Query} (h : Reads (.obj members) query)
    (hn : (Entries.keys members).Nodup) (hm : (key, .arr items) ∈ members)
    (hk : Group.ofKey? key = some kind) (hc : Clause.group kind queries ∈ query) :
    List.Forall₂ Reads items queries := by
  obtain ⟨member, hmember, hclause⟩ := exists_of_mem_left h.members.flip hc
  have hrenamed := Entries.mem_ofList hmember
  rw [renameMembers_eq_map] at hrenamed
  obtain ⟨source, hsource, rfl⟩ := List.mem_map.1 hrenamed
  cases clauseFor_of_read hclause with
  | @group other _ listed _ hother hitems =>
    obtain rfl := ofKey?_inj hk hother
    have hsame := (Entries.find?_of_mem_of_nodup hn hm).symm.trans
      (Entries.find?_of_mem_of_nodup hn hsource)
    cases hsame
    exact hitems

theorem isApart_of_keeps (spec : Json) (hread : spec.IsRead) {query : Query} (h : Reads spec query)
    (hkeeps : Keeps spec query) : IsApart spec := by
  induction spec using level_induction generalizing query with
  | other value hvalue =>
    cases hkeeps with
    | object => cases hvalue
  | object members ih =>
    obtain ⟨hsorted, hvalues⟩ := Json.isRead_obj_iff.1 hread
    have hnodup := Entries.keys_nodup hsorted
    refine isApart_obj_iff.2 ⟨?_, fun key kind items hmember hkind => ?_⟩
    · -- a clause for each key leaves no two keys of one name
      refine (nodup_outputNames_iff hnodup).1 ?_
      rw [← keys_renameMembers]
      refine Entries.nodup_of_length_ofList (Nat.le_of_eq ?_)
      rw [h.members.length_eq, ← hkeeps.length_eq, renameMembers_eq_map, List.length_map]
    · cases hkeeps with
      | object hclauses hperm =>
        obtain ⟨clause, hclause, hkept⟩ := exists_of_mem_left hclauses hmember
        cases hkept with
        | field hnone => cases hnone.symm.trans hkind
        | @group _ own _ queries hown hitems =>
          obtain rfl := Option.some.inj (hkind.symm.trans hown)
          have hreads := h.group hnodup hmember hkind (hperm.mem_iff.1 hclause)
          have hboth := hitems.mp (fun _ _ hkeeps hreads => And.intro hkeeps hreads) hreads
          intro item hitem
          obtain ⟨inner, -, hkeeps, hreads⟩ := exists_of_mem_left hboth hitem
          exact ih key items hmember item hitem
            (Json.isRead_arr_iff.1 (hvalues _ hmember) item hitem) hreads hkeeps

/-- The query that a match is read as has, at every level, one clause for each
key of the specification, just where no level says both `_id` and `objectId`. -/
theorem match_keeps_iff {spec : Json} (hread : spec.IsRead) :
    Yields (Query.ofJson (renameId spec)) fun query => Keeps spec query ↔ IsApart spec :=
  (Query.ofJson_refuses (renameId spec)).made.mono fun _ hmade =>
    ⟨isApart_of_keeps spec hread hmade.1, fun hapart => keeps_of_isApart spec hread hapart hmade.1⟩

/-- The identifier under one name outside a group and under the other inside. -/
theorem ids_of_two_levels_kept :
    let spec : Json := .obj [("$or", .arr [.obj [("objectId", .str "b")], .obj [("x", .null)]]),
      ("_id", .str "a")]
    let query : Query := [.group .or [[.field "objectId" (.scalar (.string "b"))],
      [.field "x" .null]], .field "objectId" (.scalar (.string "a"))]
    spec.IsRead ∧ Query.ofJson (renameId spec) = .ok query ∧ Keeps spec query := by
  intro spec query
  have hread : spec.IsRead := ⟨spec, rfl⟩
  have hname : Clause.IsFieldName "objectId" := by decide +kernel
  have hfield : Clause.IsFieldName "x" := by decide +kernel
  have hrenamed : renameId spec = .obj [("$or", .arr [.obj [("objectId", .str "b")],
      .obj [("x", .null)]]), ("objectId", .str "a")] := rfl
  have hquery : Query.ofJson (renameId spec) = .ok query := by
    rw [hrenamed]
    simp only [Query.ofJson, Query.ofMembers, Query.ofItems, Query.ofList, Group.ofKey?,
      Clause.ofField, hname.1, hname.2, hfield.1, hfield.2, Bool.false_eq_true, if_false]
    rfl
  refine ⟨hread, hquery, ((match_keeps_iff hread).result hquery).2 ?_⟩
  refine isApart_obj_iff.2 ⟨by decide, fun key kind items hmember hkind item hitem => ?_⟩
  simp only [List.mem_cons, Prod.mk.injEq, List.not_mem_nil, or_false] at hmember
  rcases hmember with ⟨-, hitems⟩ | ⟨-, hitems⟩
  · cases hitems
    simp only [List.mem_cons, List.not_mem_nil, or_false] at hitem
    rcases hitem with rfl | rfl
    · exact isApart_obj_iff.2 ⟨by decide, by simp⟩
    · exact isApart_obj_iff.2 ⟨by decide, by simp⟩
  · cases hitems

/-- Of two conditions on the identifier only one is read. -/
theorem second_id_lost :
    let spec : Json := .obj [("_id", .str "a"), ("objectId", .str "b")]
    let query : Query := [.field "objectId" (.scalar (.string "b"))]
    spec.IsRead ∧ Query.ofJson (renameId spec) = .ok query ∧ ¬Keeps spec query := by
  intro spec query
  have hname : Clause.IsFieldName "objectId" := by decide +kernel
  have hrenamed : renameId spec = .obj [("objectId", .str "b")] := rfl
  have hquery : Query.ofJson (renameId spec) = .ok query := by
    rw [hrenamed, Query.ofJson_single hname]
    rfl
  exact ⟨⟨spec, rfl⟩, hquery, fun hkeeps => absurd hkeeps.length_eq (by decide)⟩

end DocSql.Aggregate
