import DocSql.Statement.Insert

/-!
The values that documents give to the fields of a type. A type that columns
hold in a form of their own is written by its tag or, for some, as a bare text,
and an object is taken as it is, so it may not look like any of them.
-/
namespace DocSql

namespace Json

mutual

def hasPlainKeys : Json → Bool
  | arr items => itemsHavePlainKeys items
  | obj members => membersHavePlainKeys members
  | _ => true

def itemsHavePlainKeys : List Json → Bool
  | [] => true
  | item :: rest => hasPlainKeys item && itemsHavePlainKeys rest

def membersHavePlainKeys : List (String × Json) → Bool
  | [] => true
  | (key, value) :: rest =>
    !Insert.isForbidden key && hasPlainKeys value && membersHavePlainKeys rest

end

theorem obj_of_typeTag? {value : Json} {tag : String} (h : value.typeTag? = some tag) :
    ∃ members, value = obj members := by
  cases value with
  | obj members => exact ⟨members, rfl⟩
  | null | bool _ | num _ | str _ | arr _ => cases h

end Json

namespace FieldType

def isScalar : FieldType → Bool
  | string | number | boolean => true
  | _ => false

def valueTags : List String := ["Date", "Pointer", "GeoPoint", "Polygon", "File", "Relation"]

/-- The values of a type as documents write them. A tagged value need not be
complete: whether it is shows when it is encoded. -/
inductive Admits : FieldType → Json → Prop
  | string (s : String) : Admits string (.str s)
  | number (n : Number) : Admits number (.num n)
  | boolean (b : Bool) : Admits boolean (.bool b)
  | date {value : Json} (h : value.typeTag? = some "Date") : Admits date value
  | dateText (iso : String) : Admits date (.str iso)
  | pointer {target : String} {value : Json} (h : value.typeTag? = some "Pointer") :
    Admits (pointer target) value
  | pointerId {target : String} (id : String) : Admits (pointer target) (.str id)
  | file {value : Json} (h : value.typeTag? = some "File") : Admits file value
  | fileName (name : String) : Admits file (.str name)
  | geoPoint {value : Json} (h : value.typeTag? = some "GeoPoint") : Admits geoPoint value
  | polygon {value : Json} (h : value.typeTag? = some "Polygon") : Admits polygon value
  | texts (items : List String) : Admits (arrayOf string) (.arr (items.map .str))
  | list (items : List Json) : Admits array (.arr items)
  | listOf {contents : FieldType} (h : contents ≠ string) (items : List Json) :
    Admits (arrayOf contents) (.arr items)
  | object {members : List (String × Json)} (hk : (Json.obj members).hasPlainKeys)
    (ht : ∀ tag ∈ valueTags, (Json.obj members).typeTag? ≠ some tag) : Admits object (.obj members)
  | bytes {value : Json} (h : value.typeTag? = some "Bytes") : Admits bytes value

namespace Admits

variable {type : FieldType} {value : Json}

theorem not_null (h : type.Admits value) : value.isNull = false := by
  cases h with
  | date h | pointer h | file h | geoPoint h | polygon h | bytes h =>
    obtain ⟨members, rfl⟩ := Json.obj_of_typeTag? h
    rfl
  | _ => rfl

theorem not_relation (h : type.Admits value) : type.isRelation = false := by
  cases h with
  | _ => rfl

end Admits
end FieldType

theorem Sql.Expr.ofDatum_number (n : Number) : ofDatum (.ofNumber n) = .param (.ofNumber n) := by
  unfold Datum.ofNumber
  split
  · rfl
  · rfl

theorem Datum.encode_of_admits {name : String} {type : FieldType} {value : Json}
    (hp : Schema.isPermissionField name → type = .arrayOf .string) (hv : type.Admits value) :
    encode name (some type) value = encodeAs name type value := by
  unfold encode
  rw [if_neg (by simp [hv.not_null])]
  split
  next h =>
    rw [hp h]
    rfl
  · rfl

namespace Insert

mutual

theorem checkValue_of_plainKeys : ∀ {value : Json}, value.hasPlainKeys → checkValue value = .ok ()
  | .obj members, h => by
    simp only [checkValue]
    split
    · exact checkMembers_of_plainKeys h
    · rfl
  | .null, _ | .bool _, _ | .num _, _ | .str _, _ | .arr _, _ => by simp only [checkValue]

theorem checkMembers_of_plainKeys {nested : Bool} : ∀ {members : List (String × Json)},
    Json.membersHavePlainKeys members → checkMembers nested members = .ok ()
  | [], _ => by simp only [checkMembers]
  | (key, value) :: rest, h => by
    simp only [Json.membersHavePlainKeys, Bool.and_eq_true, Bool.not_eq_true'] at h
    obtain ⟨⟨hkey, hvalue⟩, hrest⟩ := h
    simp only [checkMembers, hkey, Bool.and_false, Bool.false_eq_true, if_false,
      checkValue_of_plainKeys hvalue]
    exact checkMembers_of_plainKeys hrest

end

theorem checkValue_of_tagged {value : Json} {tag : String} (h : value.typeTag? = some tag) :
    checkValue value = .ok () := by
  obtain ⟨members, rfl⟩ := Json.obj_of_typeTag? h
  simp [checkValue, h]

theorem checkValue_of_admits {type : FieldType} {value : Json} (h : type.Admits value) :
    checkValue value = .ok () := by
  cases h with
  | date h | pointer h | file h | geoPoint h | polygon h | bytes h => exact checkValue_of_tagged h
  | object hk ht => exact checkValue_of_plainKeys hk
  | string _ | number _ | boolean _ | dateText _ | pointerId _ | fileName _ | texts _ | list _
    | listOf _ _ => simp only [checkValue]

end Insert
end DocSql
