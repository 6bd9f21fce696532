import DocSql.Proofs.Schema.Columns

/-!
The storage view and the document view of a schema. The one sets the fields that
the other takes away, and whether they were declared, and how, makes no
difference. So a view is the same however often it is taken, and either can be
taken through the other. Main statement: `Schema.views_agree`.
-/
namespace DocSql

namespace Schema

variable {schema : Schema}

/-- The fields that the storage view sets, with their types. -/
def storageFields (schema : Schema) : Entries FieldType :=
  [(readPermissions, .arrayOf .string), (writePermissions, .arrayOf .string)] ++
    if schema.isUserClass then [(passwordHash, .string)] else []

theorem keys_storageFields_nodup (schema : Schema) :
    (Entries.keys schema.storageFields).Nodup := by
  unfold storageFields
  split
  · decide
  · decide

theorem fields_toStorage (schema : Schema) : schema.toStorage.fields =
    schema.storageFields.foldl (fun all entry => Entries.insert all entry.1 entry.2)
      schema.fields := by
  unfold toStorage storageFields
  split
  · rfl
  · rfl

theorem fields_toDocument (schema : Schema) : schema.toDocument.fields =
    (Entries.keys schema.storageFields).foldl Entries.erase schema.fields := by
  unfold toDocument storageFields
  split
  · rfl
  · rfl

theorem find?_fields_toStorage (schema : Schema) (name : String) :
    Entries.find? schema.toStorage.fields name =
      (Entries.find? schema.storageFields name).or (Entries.find? schema.fields name) := by
  rw [fields_toStorage, Entries.find?_foldl_insert,
    Entries.find?_reverse schema.keys_storageFields_nodup]

theorem find?_fields_toDocument (schema : Schema) (name : String) :
    Entries.find? schema.toDocument.fields name =
      if (Entries.find? schema.storageFields name).isSome then none
      else Entries.find? schema.fields name := by
  have hkey : (Entries.find? schema.storageFields name).isSome ↔
      name ∈ Entries.keys schema.storageFields := by
    rw [Option.isSome_iff_exists, Entries.mem_keys_iff]
  rw [fields_toDocument, Entries.find?_foldl_erase]
  simp only [hkey]

theorem fields_toStorage_sorted (hs : (Entries.keys schema.fields).Pairwise (· < ·)) :
    (Entries.keys schema.toStorage.fields).Pairwise (· < ·) := by
  rw [fields_toStorage]
  exact Entries.foldl_insert_sorted _ hs

theorem fields_toDocument_sorted (hs : (Entries.keys schema.fields).Pairwise (· < ·)) :
    (Entries.keys schema.toDocument.fields).Pairwise (· < ·) := by
  rw [fields_toDocument]
  exact Entries.foldl_erase_sorted _ hs

-- Which fields a view sets depends on the class name alone, so views of views are
-- compared field by field.
theorem fields_toStorage_toStorage (hs : (Entries.keys schema.fields).Pairwise (· < ·)) :
    schema.toStorage.toStorage.fields = schema.toStorage.fields := by
  apply Entries.ext_find? (fields_toStorage_sorted (fields_toStorage_sorted hs))
    (fields_toStorage_sorted hs)
  intro name
  have hsame : schema.toStorage.storageFields = schema.storageFields := rfl
  rw [find?_fields_toStorage, hsame, find?_fields_toStorage, ← Option.or_assoc, Option.or_self]

theorem fields_toStorage_toDocument (hs : (Entries.keys schema.fields).Pairwise (· < ·)) :
    schema.toStorage.toDocument.fields = schema.toDocument.fields := by
  apply Entries.ext_find? (fields_toDocument_sorted (fields_toStorage_sorted hs))
    (fields_toDocument_sorted hs)
  intro name
  have hsame : schema.toStorage.storageFields = schema.storageFields := rfl
  rw [find?_fields_toDocument, hsame, find?_fields_toStorage, find?_fields_toDocument]
  cases Entries.find? schema.storageFields name with
  | none => simp
  | some type => simp

theorem fields_toDocument_toStorage (hs : (Entries.keys schema.fields).Pairwise (· < ·)) :
    schema.toDocument.toStorage.fields = schema.toStorage.fields := by
  apply Entries.ext_find? (fields_toStorage_sorted (fields_toDocument_sorted hs))
    (fields_toStorage_sorted hs)
  intro name
  have hsame : schema.toDocument.storageFields = schema.storageFields := rfl
  rw [find?_fields_toStorage, hsame, find?_fields_toDocument, find?_fields_toStorage]
  cases Entries.find? schema.storageFields name with
  | none => simp
  | some type => simp

theorem fields_toDocument_toDocument (hs : (Entries.keys schema.fields).Pairwise (· < ·)) :
    schema.toDocument.toDocument.fields = schema.toDocument.fields := by
  apply Entries.ext_find? (fields_toDocument_sorted (fields_toDocument_sorted hs))
    (fields_toDocument_sorted hs)
  intro name
  have hsame : schema.toDocument.storageFields = schema.storageFields := rfl
  rw [find?_fields_toDocument, hsame, find?_fields_toDocument]
  cases Entries.find? schema.storageFields name with
  | none => simp
  | some type => simp

/-- Seven operations are open to everybody, and no field is protected from anybody. -/
def openPermissions : Entries Json :=
  let everybody := Json.obj [("*", .bool true)]
  [("addField", everybody), ("count", everybody), ("create", everybody), ("delete", everybody),
    ("find", everybody), ("get", everybody), ("protectedFields", .obj [("*", .arr [])]),
    ("update", everybody)]

theorem defaultPermissions_eq : defaultPermissions = openPermissions := rfl

theorem openPermissions_sorted : (Entries.keys openPermissions).Pairwise (· < ·) := by decide

def operations (given : Option Json) : Entries Json :=
  ((given.bind Json.obj?).getD []).foldl
    (fun all entry => Entries.insert all entry.1 entry.2) openPermissions

theorem documentPermissions_eq (given : Option Json) :
    documentPermissions given = .obj (operations given) := by
  unfold documentPermissions operations
  rw [defaultPermissions_eq]
  split
  · rfl
  next hother =>
    cases given with
    | none => simp
    | some value =>
      cases value with
      | obj members => exact absurd rfl (hother members)
      | null | bool _ | num _ | str _ | arr _ => simp [Json.obj?]

theorem operations_sorted (given : Option Json) :
    (Entries.keys (operations given)).Pairwise (· < ·) := by
  unfold operations
  exact Entries.foldl_insert_sorted _ openPermissions_sorted

theorem find?_operations {given : Option Json}
    (hs : ∀ members, given = some (.obj members) → (Entries.keys members).Pairwise (· < ·))
    (name : String) : Entries.find? (operations given) name =
      (given.bind (Json.get? name)).or (Entries.find? openPermissions name) := by
  unfold operations
  rw [Entries.find?_foldl_insert]
  cases given with
  | none => rfl
  | some value =>
    cases value with
    | obj members =>
      have hn := Entries.keys_nodup (hs members rfl)
      exact congrArg (Option.or · _) (Entries.find?_reverse hn name)
    | null | bool _ | num _ | str _ | arr _ => rfl

theorem operations_operations (given : Option Json) :
    operations (some (.obj (operations given))) = operations given := by
  have hsorted := operations_sorted given
  apply Entries.ext_find? (operations_sorted _) hsorted
  intro name
  have hgiven : ∀ members, some (Json.obj (operations given)) = some (.obj members) →
      (Entries.keys members).Pairwise (· < ·) := by
    rintro members ⟨⟩
    exact hsorted
  rw [find?_operations hgiven]
  change (Entries.find? (operations given) name).or _ = _
  conv_lhs => rw [operations, Entries.find?_foldl_insert, Option.or_assoc, Option.or_self]
  rw [operations, Entries.find?_foldl_insert]

/-- The views fit together: each is the same when it is taken again, and when it is
taken of the other. The document view has every operation, with the permissions
that are given for it or else the default ones. -/
theorem views_agree (schema : Schema) (hs : (Entries.keys schema.fields).Pairwise (· < ·))
    (hp : ∀ members, schema.permissions = some (.obj members) →
      (Entries.keys members).Pairwise (· < ·)) :
    schema.toStorage.toDocument = schema.toDocument ∧
      schema.toStorage.toStorage = schema.toStorage ∧
      schema.toDocument.toDocument = schema.toDocument ∧
      schema.toDocument.toStorage.fields = schema.toStorage.fields ∧
      ∃ members, schema.toDocument.permissions = some (.obj members) ∧
        ∀ name, Entries.find? members name =
          (schema.permissions.bind (Json.get? name)).or (Entries.find? openPermissions name) := by
  have hview (view : Schema) : view.toDocument = { view with
      fields := view.toDocument.fields
      permissions := some (.obj (operations view.permissions))
      indexes := view.indexes.filter (!·.isEmpty) } := by
    rw [← documentPermissions_eq]
    rfl
  refine ⟨?_, ?_, ?_, fields_toDocument_toStorage hs, operations schema.permissions, ?_,
    find?_operations hp⟩
  · rw [hview, fields_toStorage_toDocument hs, hview schema]
    rfl
  · change { schema.toStorage with fields := schema.toStorage.toStorage.fields } = _
    rw [fields_toStorage_toStorage hs]
  · rw [hview, fields_toDocument_toDocument hs, hview schema]
    simp [operations_operations]
  · rw [hview]

/-- Accounts that declare a permission field as a number, and let only their owners
be deleted. -/
theorem account_views_agree :
    let given := Json.obj [("delete", .obj [("owner", .bool true)])]
    let schema : Schema := {
      className := "_User"
      fields := [("_rperm", .number), ("name", .string)]
      permissions := some given }
    schema.toStorage.toDocument = schema.toDocument ∧
      schema.toDocument.toStorage.fields = [("_hashed_password", .string),
        ("_rperm", .arrayOf .string), ("_wperm", .arrayOf .string), ("name", .string)] ∧
      ∃ members, schema.toDocument.permissions = some (.obj members) ∧
        Entries.find? members "delete" = some (.obj [("owner", .bool true)]) ∧
        Entries.find? members "find" = some (.obj [("*", .bool true)]) := by
  intro given schema
  have hs : (Entries.keys schema.fields).Pairwise (· < ·) := by decide
  have hp : ∀ members, schema.permissions = some (.obj members) →
      (Entries.keys members).Pairwise (· < ·) := by
    intro members hmembers
    obtain rfl : [("delete", .obj [("owner", .bool true)])] = members :=
      Json.obj.inj (Option.some.inj hmembers)
    exact List.pairwise_singleton _ _
  obtain ⟨hdocument, -, -, hfields, members, hmembers, hfind⟩ := schema.views_agree hs hp
  refine ⟨hdocument, hfields.trans rfl, members, hmembers, ?_, ?_⟩
  · rw [hfind]
    rfl
  · rw [hfind]
    rfl

end Schema
end DocSql
