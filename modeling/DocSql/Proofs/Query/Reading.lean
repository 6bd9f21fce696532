import DocSql.Proofs.Query.Compiling
import DocSql.Proofs.Query.Operands

/-!
Queries as they are read. Reading accepts just the values that describe a query,
so it neither drops nor invents a condition: at every level there is one clause
for each key, in order, and one test for each operator key of a condition, with
what stands under the key. Main statement: `Query.ofJson_describes_iff`.
-/
namespace DocSql

theorem Group.ofKey?_eq_some_iff {key : String} {kind : Group} :
    ofKey? key = some kind ↔ kind.key = key := by
  constructor
  · intro h
    unfold ofKey? at h
    split at h <;> cases h <;> rfl
  · rintro rfl
    cases kind with
    | _ => rfl

/-- A condition as a value describes it: untagged objects by their tests, tagged
ones by their tags. -/
inductive Condition.Describes : Json → Condition → Prop
  | null : Describes .null .null
  | string (text : String) : Describes (.str text) (.scalar (.string text))
  | number (n : Number) : Describes (.num n) (.scalar (.number n))
  | bool (b : Bool) : Describes (.bool b) (.scalar (.bool b))
  | pointer {value : Json} {id : String} (ht : value.typeTag? = some "Pointer")
    (h : Datum.pointerId value = .ok id) : Describes value (.pointer value)
  | date {value : Json} {instant : Timestamp} (ht : value.typeTag? = some "Date")
    (h : Timestamp.ofJson value = .ok instant) : Describes value (.date instant)
  | geoPoint {value : Json} {point : GeoPoint} (ht : value.typeTag? = some "GeoPoint")
    (h : GeoPoint.ofJson value = .ok point) : Describes value (.geoPoint point)
  | polygon {value : Json} (ht : value.typeTag? = some "Polygon") :
    Describes value (.polygon value)
  | operators {members : Entries Json} {tests : List Operator}
    (ht : (Json.obj members).typeTag? = none) (h : Operator.Describes members tests) :
    Describes (.obj members) (.operators tests)

theorem Json.exists_members {value : Json} {tag : String} (h : value.typeTag? = some tag) :
    ∃ members, value = .obj members := by
  cases value with
  | obj members => exact ⟨members, rfl⟩
  | null | bool _ | num _ | str _ | arr _ => cases h

theorem Condition.ofJson_eq_ok_iff {value : Json} {condition : Condition} :
    ofJson value = .ok condition ↔ Describes value condition := by
  constructor
  · intro h
    cases value with
    | null | bool _ | num _ | str _ =>
      cases h
      constructor
    | arr _ => cases h
    | obj members =>
      unfold ofJson at h
      dsimp only at h
      split at h
      next ht =>
        obtain ⟨id, hid, h⟩ := bind_eq_ok.1 h
        cases h
        exact .pointer ht hid
      next ht =>
        obtain ⟨instant, hinstant, rfl⟩ := map_eq_ok.1 h
        exact .date ht hinstant
      next ht =>
        obtain ⟨point, hpoint, rfl⟩ := map_eq_ok.1 h
        exact .geoPoint ht hpoint
      next ht =>
        cases h
        exact .polygon ht
      next => cases h
      next ht =>
        obtain ⟨tests, htests, rfl⟩ := map_eq_ok.1 h
        exact .operators ht (Operator.ofJson_eq_ok_iff.1 htests)
  · intro h
    cases h with
    | null | string | number | bool => rfl
    | pointer ht h | date ht h | geoPoint ht h =>
      obtain ⟨members, rfl⟩ := Json.exists_members ht
      simp only [ofJson, ht, h]
      rfl
    | polygon ht =>
      obtain ⟨members, rfl⟩ := Json.exists_members ht
      simp only [ofJson, ht]
    | operators ht h =>
      simp only [ofJson, ht, Operator.ofJson_eq_ok_iff.2 h]
      rfl

/-- A clause of a key and what stands under it: a condition on a field, whose
name is not taken for an operator or a provider, or a group of queries, one for
each item of a list that is not empty. -/
inductive Clause.Describes (R : Json → Query → Prop) : String × Json → Clause → Prop
  | field {name : String} {value : Json} {condition : Condition} (hn : IsFieldName name)
    (h : Condition.Describes value condition) : Describes R (name, value) (.field name condition)
  | group {kind : Group} {items : List Json} {queries : List Query} (hi : items ≠ [])
    (h : List.Forall₂ R items queries) : Describes R (kind.key, .arr items) (.group kind queries)

theorem Clause.Describes.mono {R S : Json → Query → Prop} {member : String × Json} {clause : Clause}
    (h : Describes R member clause) (hrs : ∀ items, member.2 = .arr items →
      ∀ item ∈ items, ∀ query, R item query → S item query) : Describes S member clause := by
  cases h with
  | field hn h => exact .field hn h
  | group hi h =>
    refine .group hi (((List.forall₂_and_left _ _).2 ⟨hrs _ rfl, h⟩).imp ?_)
    exact fun item query hitem => hitem.1 query hitem.2

/-- A query of an object, with one clause for each key in order, at every level. -/
inductive Query.Describes : Json → Query → Prop
  | object {members : Entries Json} {query : Query}
    (h : List.Forall₂ (Clause.Describes Describes) members query) : Describes (.obj members) query

theorem Clause.ofField_eq_ok_iff {name : String} {value : Json} {clause : Clause} :
    ofField name value = .ok clause ↔
      IsFieldName name ∧ ∃ condition, Condition.Describes value condition ∧
        clause = .field name condition := by
  unfold ofField IsFieldName
  cases name.startsWith "$" with
  | true => exact ⟨nofun, fun h => nomatch h.1.1⟩
  | false =>
    cases name.startsWith "_auth_data_" with
    | true => exact ⟨nofun, fun h => nomatch h.1.2⟩
    | false =>
      simp only [Bool.false_eq_true, if_false, map_eq_ok, Condition.ofJson_eq_ok_iff]
      simp [eq_comm]

namespace Query

/-- Induction over levels: what holds of an object where it holds of all that
its groups list, and of whatever is no object, holds of every value. -/
theorem level_induction {P : Json → Prop}
    (object : ∀ members, (∀ key items, (key, Json.arr items) ∈ members →
      ∀ item ∈ items, P item) → P (.obj members))
    (other : ∀ value, value.obj? = none → P value) (value : Json) : P value := by
  cases value with
  | obj members =>
    exact object members fun key items hmember item hitem => level_induction object other item
  | null | bool _ | num _ | str _ | arr _ => exact other _ rfl
termination_by sizeOf value
decreasing_by
  have hinner := List.sizeOf_lt_of_mem hmember
  have hlisted := List.sizeOf_lt_of_mem hitem
  simp only [Prod.mk.sizeOf_spec, Json.arr.sizeOf_spec] at hinner
  simp only [Json.obj.sizeOf_spec]
  omega

def readMember (member : String × Json) : Except Error Clause :=
  match Group.ofKey? member.1 with
  | some kind => Clause.group kind <$> ofItems member.1 member.2
  | none => Clause.ofField member.1 member.2

theorem ofMembers_eq_mapM (members : List (String × Json)) :
    ofMembers members = members.mapM readMember := by
  induction members with
  | nil => rfl
  | cons member rest ih =>
    rw [ofMembers, ih, List.mapM_cons, readMember]
    cases Group.ofKey? member.1 with
    | none => rfl
    | some kind => rfl

theorem ofList_eq_mapM (items : List Json) : ofList items = items.mapM ofJson := by
  induction items with
  | nil => rfl
  | cons item rest ih => rw [ofList, ih, List.mapM_cons]

theorem ofItems_eq_ok_iff {key : String} {value : Json} {queries : List Query} :
    ofItems key value = .ok queries ↔ ∃ items, value = .arr items ∧ items ≠ [] ∧
      List.Forall₂ (fun item query => ofJson item = .ok query) items queries := by
  cases value with
  | arr items =>
    cases items with
    | nil => simp [ofItems]
    | cons item rest =>
      rw [ofItems, ofList_eq_mapM, mapM_eq_ok]
      simp
  | null | bool _ | num _ | str _ | obj _ => simp [ofItems]

theorem readMember_eq_ok_iff {member : String × Json} {clause : Clause} :
    readMember member = .ok clause ↔
      Clause.Describes (fun item query => ofJson item = .ok query) member clause := by
  obtain ⟨key, value⟩ := member
  unfold readMember
  constructor
  · intro h
    cases hkey : Group.ofKey? key with
    | some kind =>
      rw [hkey] at h
      obtain ⟨queries, hqueries, rfl⟩ := map_eq_ok.1 h
      obtain ⟨items, rfl, hne, hitems⟩ := ofItems_eq_ok_iff.1 hqueries
      rw [← Group.ofKey?_eq_some_iff.1 hkey]
      exact .group hne hitems
    | none =>
      rw [hkey] at h
      obtain ⟨hname, condition, hcondition, rfl⟩ := Clause.ofField_eq_ok_iff.1 h
      exact .field hname hcondition
  · intro h
    cases h with
    | field hname hcondition =>
      rw [Group.ofKey?_of_name hname.1]
      exact Clause.ofField_eq_ok_iff.2 ⟨hname, _, hcondition, rfl⟩
    | group hne hitems =>
      rw [Group.ofKey?_eq_some_iff.2 rfl]
      exact map_eq_ok.2 ⟨_, ofItems_eq_ok_iff.2 ⟨_, rfl, hne, hitems⟩, rfl⟩

/-- A value is read as just the query that it describes: an object, with one
clause for each key in order at every level and with the tests of its keys in
every condition. -/
theorem ofJson_describes_iff {value : Json} {query : Query} :
    ofJson value = .ok query ↔ Describes value query := by
  induction value using level_induction generalizing query with
  | other value hvalue =>
    cases value with
    | obj members => cases hvalue
    | null | bool _ | num _ | str _ | arr _ => exact ⟨nofun, nofun⟩
  | object members ih =>
    have hmember : ∀ member ∈ members, ∀ clause,
        readMember member = .ok clause ↔ Clause.Describes Describes member clause := by
      rintro ⟨key, inner⟩ hlisted clause
      rw [readMember_eq_ok_iff]
      refine ⟨fun h => h.mono fun items hitems item hitem inner => ?_,
        fun h => h.mono fun items hitems item hitem inner => ?_⟩
      · exact (ih key items (hitems ▸ hlisted) item hitem).1
      · exact (ih key items (hitems ▸ hlisted) item hitem).2
    rw [ofJson, ofMembers_eq_mapM, mapM_eq_ok]
    constructor
    · intro h
      refine .object (((List.forall₂_and_left _ _).2 ⟨hmember, h⟩).imp ?_)
      exact fun member clause hclause => (hclause.1 clause).1 hclause.2
    · intro h
      cases h with | object h => ?_
      refine ((List.forall₂_and_left _ _).2 ⟨hmember, h⟩).imp ?_
      exact fun member clause hclause => (hclause.1 clause).2 hclause.2

end Query
end DocSql
