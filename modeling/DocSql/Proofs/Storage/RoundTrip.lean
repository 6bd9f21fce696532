import DocSql.Proofs.Entries
import DocSql.Proofs.Geo.Rings
import DocSql.Proofs.Timestamp.Iso
import DocSql.Storage.Codec

/-!
What a column keeps of a document. A type has one form in which decoding shows
its values; a document that gives a value in this form gets it back unchanged.
Numbers have no such form, since a column may hold another number, and neither
have relations, which have no column.
-/
namespace DocSql

namespace Json

def tagged (tag : String) (members : List (String × Json)) : Json :=
  obj (("__type", str tag) :: members)

theorem object_of_sorted {tag : String} {members : List (String × Json)} (names : List String)
    (hn : Entries.keys members = names) (h : ("__type" :: names).Pairwise (· < ·)) :
    object (("__type", str tag) :: members) = tagged tag members := by
  subst hn
  exact congrArg obj (Entries.ofList_of_sorted h)

end Json

namespace FieldType

/-- The values of a type in the form that decoding shows. -/
inductive Canonical : FieldType → Json → Prop
  | string (s : String) : Canonical string (.str s)
  | boolean (b : Bool) : Canonical boolean (.bool b)
  | date {iso : String} (h : Timestamp.IsIso iso) :
    Canonical date (.tagged "Date" [("iso", .str iso)])
  | pointer (target id : String) :
    Canonical (pointer target) (.tagged "Pointer" [("className", .str target), ("objectId", .str id)])
  | file (name : String) : Canonical file (.tagged "File" [("name", .str name)])
  | geoPoint {latitude longitude : Double} (hlat : latitude.IsWithin 90)
    (hlon : longitude.IsWithin 180) :
    Canonical geoPoint
      (.tagged "GeoPoint" [("latitude", .float latitude), ("longitude", .float longitude)])
  | polygon {vertices : List Ring.Vertex} (h : Ring.IsOpen vertices) :
    Canonical polygon (.tagged "Polygon"
      [("coordinates", .arr (vertices.map fun v => .arr [.float v.1, .float v.2]))])
  | texts (items : List String) : Canonical (arrayOf string) (.arr (items.map .str))
  | object (value : Json) : Canonical object value
  | bytes (value : Json) : Canonical bytes value
  | list (value : Json) : Canonical array value
  | listOf {contents : FieldType} (h : contents ≠ string) (value : Json) :
    Canonical (arrayOf contents) value

/-- The values that a column of a field keeps: none at all, the lists of a
permission column, and the canonical values of the type in any other column. -/
inductive Keeps (name : String) (type : FieldType) : Json → Prop
  | null : Keeps name type .null
  | permissions (hp : Schema.isPermissionField name) (items : List String) :
    Keeps name type (.arr (items.map .str))
  | canonical {value : Json} (hp : Schema.isPermissionField name = false)
    (hv : type.Canonical value) : Keeps name type value

end FieldType

theorem mapM_map_ok {α β : Type} {read : β → Except Error α} (write : α → β)
    (h : ∀ a, read (write a) = .ok a) (items : List α) :
    (items.map write).mapM read = .ok items := by
  induction items with
  | nil => rfl
  | cons a rest ih =>
    rw [List.map_cons, List.mapM_cons, h, ih]
    rfl

namespace Ring

theorem verticesOfJson_floats (vertices : List Vertex) :
    verticesOfJson (.arr (vertices.map fun v => .arr [.float v.1, .float v.2])) = .ok vertices :=
  mapM_map_ok (fun v : Vertex => Json.arr [.float v.1, .float v.2])
    (fun v => (rfl : vertexOfJson _ = .ok v)) vertices

theorem vertexToJson_onGlobe {vertices : List Vertex} (h : ∀ v ∈ vertices, v.IsOnGlobe) :
    vertices.map vertexToJson = vertices.map fun v => .arr [.float v.1, .float v.2] := by
  refine List.map_congr_left fun v hv => ?_
  obtain ⟨hlat, hlon⟩ := h v hv
  simp [vertexToJson, Json.ofDouble, hlat.finite, hlon.finite]

end Ring

namespace Datum

variable {name : String} {type : FieldType} {value : Json}

theorem encodeTextArray_texts (name : String) (items : List String) :
    encodeTextArray name (.arr (items.map .str)) = .ok (.textArray items) :=
  congrArg (textArray <$> ·) (mapM_map_ok Json.str (fun _ => rfl) items)

theorem decode_encodeAs (name : String) (hv : type.Canonical value) :
    ∃ raw, encodeAs name type value = .ok raw ∧ raw.decode type = .ok value := by
  cases hv with
  | string s => exact ⟨.text s, rfl, rfl⟩
  | boolean b => exact ⟨.bool b, rfl, rfl⟩
  | @date iso h =>
    obtain ⟨t, hread, hwritten⟩ := h.parse
    have hparse : Timestamp.parse iso = .ok t := by rw [Timestamp.parse, hread]
    refine ⟨.timestamp t, ?_, ?_⟩
    · change timestamp <$> Timestamp.parse iso = _
      rw [hparse]
      rfl
    · change Except.ok t.toJson = _
      rw [Timestamp.toJson, hwritten, Json.object_of_sorted ["iso"] rfl (by decide)]
  | pointer target id =>
    refine ⟨.text id, rfl, ?_⟩
    rw [decode, Json.object_of_sorted ["className", "objectId"] rfl (by decide)]
  | file name =>
    refine ⟨.text name, rfl, ?_⟩
    rw [decode, Json.object_of_sorted ["name"] rfl (by decide)]
  | @geoPoint latitude longitude hlat hlon =>
    refine ⟨.point ⟨longitude, latitude⟩, ?_, ?_⟩
    · change (point ·.toPoint) <$> GeoPoint.make latitude longitude = _
      rw [GeoPoint.make_of_isWithin hlat hlon]
      rfl
    · change Except.ok (GeoPoint.toJson ⟨latitude, longitude⟩) = _
      simp only [GeoPoint.toJson, Json.ofDouble, hlat.finite, hlon.finite, if_true]
      rw [Json.object_of_sorted ["latitude", "longitude"] rfl (by decide)]
  | @polygon vertices h =>
    refine ⟨.polygon ((Ring.closing vertices).map Ring.Vertex.toPoint), ?_, ?_⟩
    · change polygon <$> (Ring.verticesOfJson _ >>= Ring.close) = _
      rw [Ring.verticesOfJson_floats]
      change polygon <$> Ring.close vertices = _
      rw [h.close_eq]
      rfl
    · change Except.ok (Ring.toJson _) = _
      rw [Ring.toJson, h.opened_closing, Ring.vertexToJson_onGlobe h.onGlobe,
        Json.object_of_sorted ["coordinates"] rfl (by decide)]
  | texts items => exact ⟨.textArray items, encodeTextArray_texts name items, rfl⟩
  | object value => exact ⟨.json value, rfl, rfl⟩
  | bytes value => exact ⟨.json value, rfl, rfl⟩
  | list value => exact ⟨.json value, rfl, rfl⟩
  | @listOf contents h value =>
    refine ⟨.json value, ?_, rfl⟩
    cases contents with
    | string => contradiction
    | _ => rfl

theorem encode_null (name : String) (type? : Option FieldType) :
    encode name type? .null = .ok .null := rfl

theorem decode_null (type : FieldType) : decode type .null = .ok .null := by
  cases type with
  | _ => rfl

/-- Encoding what a column keeps and decoding it again changes nothing, and of
these values null alone is stored as a null. -/
theorem decode_encode (hr : type.isRelation = false) (hk : type.Keeps name value) :
    ∃ raw, encode name (some type) value = .ok raw ∧ raw.decode type = .ok value ∧
      (value = .null ↔ raw = .null) := by
  obtain ⟨raw, hencode, hdecode⟩ :
      ∃ raw, encode name (some type) value = .ok raw ∧ raw.decode type = .ok value := by
    cases hk with
    | null => exact ⟨.null, encode_null name _, decode_null type⟩
    | permissions hp items =>
      refine ⟨.textArray items, ?_, ?_⟩
      · unfold encode
        rw [hp]
        exact encodeTextArray_texts name items
      · cases type with
        | relation _ => cases hr
        | _ => rfl
    | canonical hp hv =>
      cases hn : value.isNull with
      | true =>
        cases value with
        | null => exact ⟨.null, encode_null name _, decode_null type⟩
        | _ => cases hn
      | false =>
        unfold encode
        rw [hn, hp]
        exact decode_encodeAs name hv
  refine ⟨raw, hencode, hdecode, ?_, ?_⟩
  · rintro rfl
    rw [encode_null] at hencode
    exact (Except.ok.inj hencode).symm
  · rintro rfl
    rw [decode_null] at hdecode
    exact (Except.ok.inj hdecode).symm

/-- The leap second at the end of a leap day. -/
theorem leap_second_kept :
    let value := Json.tagged "Date" [("iso", .str "2000-02-29T23:59:60.007Z")]
    (FieldType.date.isRelation = false ∧ FieldType.date.Keeps "seenAt" value) ∧
    ∃ raw, encode "seenAt" (some .date) value = .ok raw ∧ raw.decode .date = .ok value ∧
      (value = .null ↔ raw = .null) := by
  intro value
  have hiso : Timestamp.IsIso "2000-02-29T23:59:60.007Z" := by
    refine ⟨⟨"2000".toList, "02".toList, "29".toList, "23".toList, "59".toList, "60".toList,
      "007".toList⟩, ?_, by decide⟩
    constructor <;> decide
  have hk : FieldType.date.Keeps "seenAt" value := .canonical (by decide) (.date hiso)
  exact ⟨⟨rfl, hk⟩, decode_encode rfl hk⟩

end Datum
end DocSql
