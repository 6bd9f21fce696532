import DocSql.Proofs.Entries
import DocSql.Schema.Basic

/-!
Schema documents. Every part that writing leaves out is the one that reading
puts in its place, so a schema is read back from its document. Permissions that
are null are the exception: they are written, and read as absent. But no schema
that was read has such permissions.
-/
namespace DocSql

theorem Entries.mapM_mapValues {α β : Type} {read : β → Option α} {write : α → β}
    (h : ∀ a, read (write a) = some a) (entries : Entries α) :
    (mapValues write entries).mapM (fun entry => do return (entry.1, ← read entry.2)) =
      some entries := by
  induction entries with
  | nil => rfl
  | cons entry rest ih =>
    rw [mapValues] at ih ⊢
    rw [List.map_cons, List.mapM_cons, ih, h]
    rfl

theorem Json.object_pair {later earlier : String} (h : earlier < later) (a b : Json) :
    object [(later, a), (earlier, b)] = .obj [(earlier, b), (later, a)] := by
  simp [object, Entries.ofList, Entries.insert, h]

namespace FieldType

theorem contents?_cons {value : Json} (h : value ≠ .null) (rest : Entries Json) :
    contents? (("contents", value) :: rest) = (ofJson? value).map some := by
  unfold contents?
  rw [if_pos rfl]
  cases value with
  | null => exact absurd rfl h
  | bool _ | num _ | str _ | arr _ | obj _ => rfl

theorem toJson_ne_null (type : FieldType) : type.toJson ≠ .null := by
  cases type with
  | _ => nofun

theorem ofJson?_array (contents : Json) :
    ofJson? (.obj [("contents", contents), ("type", .str "Array")]) =
      (contents? [("contents", contents), ("type", .str "Array")]).map fun type? =>
        type?.elim array arrayOf := by
  rw [ofJson?]
  simp only [Entries.find?_cons]
  cases contents? [("contents", contents), ("type", .str "Array")] with
  | none => rfl
  | some type? =>
    cases type? with
    | _ => rfl

theorem ofJson?_toJson (type : FieldType) : ofJson? type.toJson = some type := by
  induction type with
  | arrayOf contents ih =>
    rw [toJson, Json.object_pair (by decide), ofJson?_array,
      contents?_cons contents.toJson_ne_null, ih]
    rfl
  | pointer target | relation target =>
    rw [toJson, Json.object_pair (by decide)]
    rfl
  | string | number | boolean | date | object | bytes | file | geoPoint | polygon | array => rfl

end FieldType

namespace Schema

theorem toJson_parts (schema : Schema) :
    schema.toJson.get? "className" =
        (if schema.className.isEmpty then none else some (.str schema.className)) ∧
      schema.toJson.get? "fields" =
        some (.obj (Entries.mapValues FieldType.toJson schema.fields)) ∧
      schema.toJson.get? "classLevelPermissions" = schema.permissions ∧
      schema.toJson.get? "indexes" =
        schema.indexes.map fun all => .obj (Entries.mapValues .obj all) := by
  obtain ⟨className, fields, permissions, indexes⟩ := schema
  cases h : className.isEmpty <;> cases permissions <;> cases indexes <;>
    simp [toJson, Json.get?, Json.object, Entries.ofList, Entries.find?_insert, h]

theorem fieldsOfJson?_toJson (fields : Entries FieldType) :
    fieldsOfJson? (.obj (Entries.mapValues FieldType.toJson fields)) = some fields :=
  Entries.mapM_mapValues FieldType.ofJson?_toJson fields

theorem indexesOfJson?_toJson (all : Entries (Entries Json)) :
    indexesOfJson? (.obj (Entries.mapValues .obj all)) = some (some all) := by
  have hkeys := Entries.mapM_mapValues (fun keys => (rfl : Json.obj? (.obj keys) = some keys)) all
  unfold indexesOfJson?
  change (do let all ← (Entries.mapValues Json.obj all).mapM _; some (some all)) = _
  rw [hkeys]
  rfl

/-- A schema is read back from its document unless its permissions are null. -/
theorem ofJson?_toJson {schema : Schema} (h : schema.permissions ≠ some .null) :
    ofJson? schema.toJson = some schema := by
  obtain ⟨hname, hfields, hpermissions, hindexes⟩ := schema.toJson_parts
  have hread : ofJson? schema.toJson = ofParts? (schema.toJson.get? "className")
      (schema.toJson.get? "fields") (schema.toJson.get? "classLevelPermissions")
      (schema.toJson.get? "indexes") := rfl
  have hclass : (schema.toJson.get? "className").elim (some "") Json.str? =
      some schema.className := by
    rw [hname]
    split
    next hempty => simp [String.isEmpty_iff.1 hempty]
    next => rfl
  have hindex : (schema.toJson.get? "indexes").elim (some none) indexesOfJson? =
      some schema.indexes := by
    rw [hindexes]
    cases schema.indexes with
    | none => rfl
    | some all => exact indexesOfJson?_toJson all
  have hkept : schema.permissions.filter (!·.isNull) = schema.permissions := by
    cases hp : schema.permissions with
    | none => rfl
    | some value =>
      cases value with
      | null => exact absurd hp h
      | bool _ | num _ | str _ | arr _ | obj _ => rfl
  rw [hread, ofParts?, hclass, hindex, hfields, hpermissions, hkept]
  simp only [Option.elim_some, fieldsOfJson?_toJson]
  rfl

theorem permissions_of_ofJson? {document : Json} {schema : Schema}
    (h : ofJson? document = some schema) : schema.permissions ≠ some .null := by
  have hparts {className fields permissions indexes : Option Json}
      (h : ofParts? className fields permissions indexes = some schema) :
      schema.permissions ≠ some .null := by
    simp only [ofParts?, Option.bind_eq_bind, Option.bind_eq_some_iff] at h
    obtain ⟨_, _, _, _, _, _, h⟩ := h
    cases h
    intro hnull
    obtain ⟨-, hkept⟩ := Option.filter_eq_some_iff.1 hnull
    cases hkept
  unfold ofJson? at h
  split at h
  · exact hparts h
  · split at h
    · cases h
    · exact hparts h
  · cases h

end Schema
end DocSql
