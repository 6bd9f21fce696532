import DocSql.Pattern
import DocSql.Proofs.Outcome
import DocSql.Query.Reader
import DocSql.Statement.Insert
import DocSql.Timestamp.Relative
import DocSql.Update.Basic

/-!
Reading what clients send never fails internally: every failure names what was
wrong with the value, the condition or the update that was given.
-/
namespace DocSql

theorem GeoPoint.make_refuses (latitude longitude : Double) :
    NeverInternal (make latitude longitude) := by
  unfold make
  split
  · exact .error rfl
  · split
    · exact .error rfl
    · exact .ok trivial

theorem GeoPoint.ofJson_refuses (value : Json) : NeverInternal (ofJson value) := by
  unfold ofJson
  split
  · split
    · split
      · exact make_refuses _ _
      · exact .error rfl
    · exact .error rfl
  · exact make_refuses _ _
  · exact .error rfl

theorem Ring.vertexOfJson_refuses (value : Json) : NeverInternal (vertexOfJson value) := by
  unfold vertexOfJson
  split
  · exact .ok trivial
  · exact .error rfl

theorem Ring.verticesOfJson_refuses (value : Json) : NeverInternal (verticesOfJson value) := by
  unfold verticesOfJson
  split
  · exact (Yields.mapM fun item _ => vertexOfJson_refuses item).neverInternal
  · exact .error rfl

theorem Ring.close_refuses (vertices : List Vertex) : NeverInternal (close vertices) := by
  unfold close
  refine Yields.bind (P := fun _ => True) ?_ fun ring _ => ?_
  · refine (Yields.mapM (R := fun _ => True) fun vertex _ => ?_).neverInternal
    exact (GeoPoint.make_refuses _ _).bind fun _ _ => .pure trivial
  · dsimp only
    split
    · exact .throw_bind rfl
    · split
      · exact .pure trivial
      · exact .pure trivial

theorem Ring.ofJson_refuses (value : Json) : NeverInternal (ofJson value) := by
  unfold ofJson
  split
  · exact .error rfl
  · exact (verticesOfJson_refuses _).bind fun vertices _ => close_refuses vertices

theorem Timestamp.parse_refuses (text : String) : NeverInternal (parse text) := by
  unfold parse
  split
  · exact .ok trivial
  · exact .error rfl

theorem Timestamp.ofJson_refuses (value : Json) : NeverInternal (ofJson value) := by
  unfold ofJson
  split
  · exact parse_refuses _
  · split
    · split
      · exact parse_refuses _
      · exact .error rfl
    · exact .error rfl

theorem Datum.pointerId_refuses (value : Json) : NeverInternal (pointerId value) := by
  unfold pointerId
  split
  · exact .ok trivial
  · split
    · exact .ok trivial
    · exact .error rfl

theorem Datum.fileName_refuses (value : Json) : NeverInternal (fileName value) := by
  unfold fileName
  split
  · exact .ok trivial
  · split
    · exact .ok trivial
    · exact .error rfl

theorem Datum.encodeTextArray_refuses (field : String) (value : Json) :
    NeverInternal (encodeTextArray field value) := by
  unfold encodeTextArray
  split
  · refine Yields.map (Yields.mapM (R := fun _ => True) fun item _ => ?_).neverInternal
    split
    · exact .ok trivial
    · exact .error rfl
  · exact .error rfl

theorem Datum.infer_refuses (value : Json) : NeverInternal (infer value) := by
  unfold infer
  split
  · exact .map (Timestamp.ofJson_refuses value)
  · exact .map (pointerId_refuses value)
  · exact .map (GeoPoint.ofJson_refuses value)
  · exact .map (Ring.ofJson_refuses value)
  · exact .map (fileName_refuses value)
  · exact .ok trivial

theorem Datum.encodeAs_refuses (field : String) (type : FieldType) (value : Json) :
    NeverInternal (encodeAs field type value) := by
  unfold encodeAs
  split
  · exact .map (Timestamp.ofJson_refuses value)
  · exact .map (pointerId_refuses value)
  · exact .map (GeoPoint.ofJson_refuses value)
  · exact .map (Ring.ofJson_refuses value)
  · exact .map (fileName_refuses value)
  · exact encodeTextArray_refuses field value
  all_goals first
    | exact .ok trivial
    | exact .error rfl

theorem Datum.encode_refuses (field : String) (type? : Option FieldType) (value : Json) :
    NeverInternal (encode field type? value) := by
  unfold encode
  split
  · exact .ok trivial
  · split
    · exact encodeTextArray_refuses field value
    · split
      · exact infer_refuses value
      · exact encodeAs_refuses field _ value

theorem Timestamp.Relative.addPairs_refuses (sum : Int) (pairs : List String) :
    NeverInternal (addPairs sum pairs) := by
  fun_induction addPairs sum pairs
  all_goals first
    | exact .ok trivial
    | exact .error rfl
    | exact .throw rfl
    | assumption

theorem Timestamp.Relative.shift_refuses (now : Timestamp) (future : Bool) (pairs : List String) :
    NeverInternal (shift now future pairs) := by
  unfold shift
  dsimp only
  split
  · exact .throw_bind rfl
  · refine (addPairs_refuses 0 pairs).bind fun seconds _ => ?_
    split
    · exact .throw_bind rfl
    · split
      · exact .pure trivial
      · exact .throw rfl

theorem Timestamp.Relative.resolve_refuses (now : Timestamp) (text : String) :
    NeverInternal (resolve now text) := by
  unfold resolve
  dsimp only
  split
  · exact .ok trivial
  · split
    · exact .error rfl
    · exact .error rfl
    · exact shift_refuses now true _
    · exact shift_refuses now false _

theorem Pattern.likeStarts_refuses (values : List Json) : NeverInternal (likeStarts values) := by
  unfold likeStarts
  split
  · refine (Yields.mapM (R := fun _ => True) fun value _ => ?_).neverInternal
    unfold likeStart
    split
    · exact .error rfl
    · exact .ok trivial
  · exact .error rfl

namespace Operator

theorem items_refuses (key : String) (value : Json) : NeverInternal (items key value) := by
  unfold items
  split
  · exact .ok trivial
  · exact .error rfl

theorem readPresent_refuses (value : Json) : NeverInternal (readPresent value) := by
  unfold readPresent
  split
  · exact .ok trivial
  · split
    · exact .error rfl
    · exact .error rfl

theorem readContainedBy_refuses (value : Json) : NeverInternal (readContainedBy value) := by
  unfold readContainedBy
  split
  · exact .ok trivial
  · exact .error rfl

theorem readFlag_refuses (search : Json) (key : String) (only : Bool) (refusal : String) :
    NeverInternal (readFlag search key only refusal) := by
  unfold readFlag
  split
  · exact .ok trivial
  · split
    · exact .ok trivial
    · exact .error rfl
  · exact .error rfl

theorem readSearch_refuses (value : Json) : NeverInternal (readSearch value) := by
  unfold readSearch
  split
  next members _ =>
    have flagged (term : String) (language : Option String) : NeverInternal do
        readFlag (.obj members) "$caseSensitive" false
          "$caseSensitive not supported, please use $regex or create a separate lower case column."
        readFlag (.obj members) "$diacriticSensitive" true
          "$diacriticSensitive - false not supported, install Postgres Unaccent Extension"
        return search { term, language } := by
      refine (readFlag_refuses _ _ _ _).bind fun _ _ => ?_
      exact (readFlag_refuses _ _ _ _).bind fun _ _ => .pure trivial
    dsimp only
    split
    · split
      · exact flagged _ none
      · exact flagged _ (some _)
      · exact .throw_bind rfl
    · exact .throw rfl
  next => exact .throw rfl

theorem maxDistance_refuses (condition : Entries Json) : NeverInternal (maxDistance condition) := by
  unfold maxDistance
  split
  · exact .ok trivial
  · split
    · exact .ok trivial
    · exact .error rfl

theorem readNear_refuses (condition : Entries Json) (value : Json) :
    NeverInternal (readNear condition value) := by
  unfold readNear
  refine (GeoPoint.ofJson_refuses value).bind fun point _ => ?_
  exact (maxDistance_refuses condition).bind fun limit _ => .pure trivial

theorem readWithin_refuses (value : Json) : NeverInternal (readWithin value) := by
  unfold readWithin
  split
  · refine (GeoPoint.ofJson_refuses _).bind fun southWest _ => ?_
    exact (GeoPoint.ofJson_refuses _).bind fun northEast _ => .pure trivial
  · exact .error rfl
  · exact .error rfl

theorem readCenterSphere_refuses (center : Json) : NeverInternal (readCenterSphere center) := by
  unfold readCenterSphere
  split
  · split
    · exact .error rfl
    · exact .error rfl
    · exact .ok trivial
  · exact .error rfl

theorem polygonPoints_refuses (polygon : Json) : NeverInternal (polygonPoints polygon) := by
  unfold polygonPoints
  split
  · exact (Yields.mapM fun item _ => GeoPoint.ofJson_refuses item).neverInternal
  · split
    · refine (Ring.verticesOfJson_refuses _).bind fun vertices _ => ?_
      exact (Yields.mapM fun vertex _ => GeoPoint.make_refuses _ _).neverInternal
    · exact .error rfl

theorem readPolygon_refuses (polygon : Json) : NeverInternal (readPolygon polygon) := by
  unfold readPolygon
  refine (polygonPoints_refuses polygon).bind fun points _ => ?_
  dsimp only
  split
  · exact .throw_bind rfl
  · exact .pure trivial

theorem readGeoWithin_refuses (value : Json) : NeverInternal (readGeoWithin value) := by
  unfold readGeoWithin
  split
  · exact readCenterSphere_refuses _
  · exact readPolygon_refuses _
  · exact .error rfl

theorem readGeoIntersects_refuses (value : Json) : NeverInternal (readGeoIntersects value) := by
  unfold readGeoIntersects
  split
  · exact .error rfl
  · split
    · exact .map (GeoPoint.ofJson_refuses _)
    · exact .error rfl

theorem readRegex_refuses (condition : Entries Json) (value : Json) :
    NeverInternal (readRegex condition value) := by
  unfold readRegex
  split
  · dsimp only
    split
    · exact .pure trivial
    · split
      · exact .pure trivial
      · exact .throw rfl
    · exact .throw rfl
  · exact .throw rfl

theorem readers_refuse (condition : Entries Json) (value : Json) :
    ∀ entry ∈ readers, NeverInternal (entry.2 condition value) := by
  simp only [readers, List.forall_mem_cons, List.not_mem_nil, false_implies, implies_true, and_true]
  refine ⟨.ok trivial, .ok trivial, .map (items_refuses _ _), .map (items_refuses _ _),
    .map (items_refuses _ _), readPresent_refuses _, readContainedBy_refuses _,
    readSearch_refuses _, readNear_refuses _ _, readWithin_refuses _, readGeoWithin_refuses _,
    readGeoIntersects_refuses _, readRegex_refuses _ _, .ok trivial, .ok trivial, .ok trivial,
    .ok trivial⟩

theorem ofJson_refuses (condition : Entries Json) : NeverInternal (ofJson condition) := by
  unfold ofJson
  dsimp only
  split
  · exact .throw_bind rfl
  · refine Yields.bind (P := fun _ => True) ?_ fun tests _ => ?_
    · refine (Yields.mapM (R := fun _ => True) fun test htest => ?_).neverInternal
      obtain ⟨entry, hentry, hfound⟩ := List.mem_filterMap.1 htest
      obtain ⟨value, -, rfl⟩ := Option.map_eq_some_iff.1 hfound
      exact readers_refuse condition value entry hentry
    · split
      · exact .throw rfl
      · exact .pure trivial

end Operator

theorem Condition.ofJson_refuses (value : Json) : NeverInternal (ofJson value) := by
  unfold ofJson
  split
  · exact .ok trivial
  · exact .ok trivial
  · exact .ok trivial
  · exact .ok trivial
  · exact .error rfl
  · split
    · exact (Datum.pointerId_refuses _).bind fun _ _ => .pure trivial
    · exact .map (Timestamp.ofJson_refuses _)
    · exact .map (GeoPoint.ofJson_refuses _)
    · exact .ok trivial
    · exact .error rfl
    · exact .map (Operator.ofJson_refuses _)

namespace Query

-- A group without queries is refused, so those that were read have some.

mutual

def HasParts : Clause → Prop
  | .field _ _ => True
  | .group _ queries => queries ≠ [] ∧ GroupsHaveParts queries

def ClausesHaveParts : List Clause → Prop
  | [] => True
  | clause :: rest => HasParts clause ∧ ClausesHaveParts rest

def GroupsHaveParts : List (List Clause) → Prop
  | [] => True
  | query :: rest => ClausesHaveParts query ∧ GroupsHaveParts rest

end

theorem ofField_yields (name : String) (value : Json) :
    Yields (Clause.ofField name value) HasParts := by
  unfold Clause.ofField
  split
  · exact .error rfl
  · split
    · exact .error rfl
    · exact .map ((Condition.ofJson_refuses value).mono fun _ _ => trivial)

mutual

theorem ofJson_yields : ∀ value : Json, Yields (ofJson value) ClausesHaveParts
  | .obj members => by
    simp only [ofJson]
    exact ofMembers_yields members
  | .null | .bool _ | .num _ | .str _ | .arr _ => by
    simp only [ofJson]
    exact .error rfl

theorem ofMembers_yields : ∀ members : List (String × Json),
    Yields (ofMembers members) ClausesHaveParts
  | [] => by
    simp only [ofMembers]
    exact .ok trivial
  | (key, value) :: rest => by
    simp only [ofMembers]
    have hclause : ∀ work : Except Error Clause, Yields work HasParts →
        Yields (work >>= fun clause => do return clause :: (← ofMembers rest))
          ClausesHaveParts := by
      intro work hwork
      exact hwork.bind fun clause hfirst =>
        (ofMembers_yields rest).bind fun others hothers => .pure ⟨hfirst, hothers⟩
    split
    · exact hclause _ (.map (ofItems_yields key value))
    · exact hclause _ (ofField_yields key value)

theorem ofItems_yields (key : String) : ∀ value : Json,
    Yields (ofItems key value) fun queries => queries ≠ [] ∧ GroupsHaveParts queries
  | .arr (item :: items) => by
    simp only [ofItems]
    refine (ofList_yields (item :: items)).mono fun queries h => ⟨?_, h.2⟩
    rintro rfl
    exact absurd h.1 (by simp)
  | .arr [] | .null | .bool _ | .num _ | .str _ | .obj _ => by
    simp only [ofItems]
    exact .error rfl

theorem ofList_yields : ∀ items : List Json,
    Yields (ofList items) fun queries =>
      queries.length = items.length ∧ GroupsHaveParts queries
  | [] => by
    simp only [ofList]
    exact .ok ⟨rfl, trivial⟩
  | item :: rest => by
    simp only [ofList]
    refine (ofJson_yields item).bind fun query hquery => ?_
    refine (ofList_yields rest).bind fun others hothers => .pure ⟨?_, hquery, hothers.2⟩
    rw [List.length_cons, List.length_cons, hothers.1]

end

theorem ofJson_refuses (value : Json) : NeverInternal (ofJson value) :=
  (ofJson_yields value).neverInternal

end Query

namespace Change

theorem amount_refuses (value : Json) : NeverInternal (amount value) := by
  unfold amount
  split
  · exact .ok trivial
  · exact .error rfl

theorem listItems_refuses (value : Json) : NeverInternal (listItems value) := by
  unfold listItems
  split
  · exact .ok trivial
  · exact .error rfl

theorem ofJson_refuses (value : Json) : NeverInternal (ofJson value) := by
  unfold ofJson
  split
  · exact .ok trivial
  · split
    · exact .ok trivial
    · exact .map (amount_refuses value)
    · exact .map (listItems_refuses value)
    · exact .map (listItems_refuses value)
    · exact .map (listItems_refuses value)
    · exact .ok trivial
    · exact .error rfl

end Change

theorem Patch.add_refuses (keys : Patch) (field : String) (path : List String) (value : Json) :
    NeverInternal (keys.add field path value) := by
  unfold add
  split
  · exact .ok trivial
  · exact (Change.amount_refuses value).bind fun amount _ => .pure trivial
  · exact .ok trivial
  · exact .error rfl

namespace Update

theorem patchOf_refuses (update : Update) (field : String) :
    NeverInternal (patchOf update field) := by
  unfold patchOf
  split
  · exact .ok trivial
  · exact .ok trivial
  · exact .ok trivial
  · exact .error rfl

theorem addField_refuses (update : Update) (key : String) (value : Json) :
    NeverInternal (addField update key value) := by
  unfold addField
  split
  · refine (patchOf_refuses update _).bind fun keys _ => ?_
    exact (Patch.add_refuses keys _ _ value).bind fun patch _ => .pure trivial
  · refine (Change.ofJson_refuses value).bind fun change _ => ?_
    split
    · exact .pure trivial
    · exact .pure trivial

theorem addMembers_refuses (update : Update) (entries : List (String × Option Json))
    (members : List (String × Json)) : NeverInternal (addMembers update entries members) := by
  induction members generalizing update entries with
  | nil =>
    simp only [addMembers]
    exact .ok trivial
  | cons member rest ih =>
    simp only [addMembers]
    split
    · exact ih _ _
    · exact (addField_refuses update _ _).bind fun more _ => ih more entries

theorem ofJson_refuses (value : Json) : NeverInternal (ofJson value) := by
  unfold ofJson
  split
  · exact addMembers_refuses _ _ _
  · exact .error rfl

end Update

namespace Insert

mutual

theorem checkValue_refuses : ∀ value : Json, NeverInternal (checkValue value)
  | .obj members => by
    simp only [checkValue]
    split
    · exact checkMembers_refuses true members
    · exact .ok trivial
  | .null | .bool _ | .num _ | .str _ | .arr _ => by
    simp only [checkValue]
    exact .ok trivial

theorem checkMembers_refuses (nested : Bool) :
    ∀ members : List (String × Json), NeverInternal (checkMembers nested members)
  | [] => by
    simp only [checkMembers]
    exact .ok trivial
  | (key, value) :: rest => by
    simp only [checkMembers]
    split
    · exact .throw_bind rfl
    · refine (checkValue_refuses value).bind fun _ _ => ?_
      exact checkMembers_refuses nested rest

end

end Insert
end DocSql
