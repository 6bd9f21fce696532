import DocSql.Proofs.Entries
import DocSql.Schema.Columns

/-!
Which names are columns of a class table, and of which type. A declared field
keeps its type; the other columns are there for every class, or for every class
of accounts, whether or not a schema says so.
-/
namespace DocSql.Schema

/-- The columns that a table has even where the schema declares none of them. -/
def suppliedColumns (schema : Schema) : Entries FieldType :=
  defaultColumns ++ if schema.isUserClass then userColumns else []

def supplies (schema : Schema) (name : String) : Bool :=
  Entries.contains schema.suppliedColumns name

def isInjected (name : String) : Bool := isPermissionField name || name == passwordHash

theorem isPermissionField_iff (name : String) :
    isPermissionField name ↔ name = readPermissions ∨ name = writePermissions := by
  simp [isPermissionField]

theorem field?_toStorage_permission (schema : Schema) {name : String}
    (h : isPermissionField name) : schema.toStorage.field? name = some (.arrayOf .string) := by
  have hwrite : passwordHash ≠ name := by
    rcases (isPermissionField_iff name).1 h with rfl | rfl
    · decide
    · decide
  have hpermission : Entries.find? (Entries.insert (Entries.insert schema.fields readPermissions
      (.arrayOf .string)) writePermissions (.arrayOf .string)) name = some (.arrayOf .string) := by
    rw [Entries.find?_insert]
    split
    · rfl
    next hne =>
      rw [((isPermissionField_iff name).1 h).resolve_right (Ne.symm hne), Entries.find?_insert_self]
  unfold toStorage field?
  dsimp only
  split
  · rw [Entries.find?_insert_other _ _ hwrite, hpermission]
  · exact hpermission

theorem field?_toStorage (schema : Schema) {name : String} (h : isInjected name = false) :
    schema.toStorage.field? name = schema.field? name := by
  simp only [isInjected, isPermissionField, Bool.or_eq_false_iff, beq_eq_false_iff_ne] at h
  obtain ⟨⟨hread, hwrite⟩, hpassword⟩ := h
  have hplain : Entries.find? (Entries.insert (Entries.insert schema.fields readPermissions
      (.arrayOf .string)) writePermissions (.arrayOf .string)) name =
        Entries.find? schema.fields name := by
    rw [Entries.find?_insert_other _ _ hwrite.symm, Entries.find?_insert_other _ _ hread.symm]
  unfold toStorage field?
  dsimp only
  split
  · rw [Entries.find?_insert_other _ _ hpassword.symm, hplain]
  · exact hplain

theorem field?_toStorage_password (schema : Schema) : schema.toStorage.field? passwordHash =
    if schema.isUserClass then some .string else schema.field? passwordHash := by
  have hread : readPermissions ≠ passwordHash := by decide
  have hwrite : writePermissions ≠ passwordHash := by decide
  unfold toStorage field?
  dsimp only
  split
  · exact Entries.find?_insert_self _ _ _
  · rw [Entries.find?_insert_other _ _ hwrite, Entries.find?_insert_other _ _ hread]

theorem field?_toStorage_toStorage (schema : Schema) (name : String) :
    schema.toStorage.toStorage.field? name = schema.toStorage.field? name := by
  by_cases hi : isInjected name
  · rw [isInjected, Bool.or_eq_true, beq_iff_eq] at hi
    rcases hi with hpermission | rfl
    · rw [field?_toStorage_permission _ hpermission, field?_toStorage_permission _ hpermission]
    · have huser : schema.toStorage.isUserClass = schema.isUserClass := rfl
      rw [field?_toStorage_password, field?_toStorage_password, huser]
      split
      · rfl
      · rfl
  · exact field?_toStorage _ (Bool.eq_false_iff.2 hi)

theorem find?_addMissing (fields : Entries FieldType) (added : List (String × FieldType))
    (name : String) :
    Entries.find? (addMissing fields added) name =
      (Entries.find? fields name).or (Entries.find? added name) :=
  Entries.find?_foldl_insertNew fields added name

theorem find?_columns (schema : Schema) (name : String) :
    Entries.find? schema.columns name =
      (Entries.find? schema.toStorage.columnFields name).or
        (Entries.find? schema.suppliedColumns name) := by
  have happend : ∀ more, addMissing (addMissing schema.toStorage.columnFields defaultColumns) more =
      addMissing schema.toStorage.columnFields (defaultColumns ++ more) := by
    intro more
    simp only [addMissing, List.foldl_append]
  unfold columns suppliedColumns
  dsimp only
  split
  · rw [happend, find?_addMissing]
  · rw [List.append_nil, find?_addMissing]

theorem find?_columns_of_declared {schema : Schema} {name : String} {type : FieldType}
    (h : schema.toStorage.field? name = some type) (hr : type.isRelation = false) :
    Entries.find? schema.columns name = some type := by
  have hcolumn : Entries.find? schema.toStorage.columnFields name = some type := by
    unfold columnFields
    exact Entries.find?_filter_of_some (fun type => !type.isRelation) h (by simp [hr])
  rw [find?_columns, hcolumn, Option.some_or]

theorem contains_columns_of_declared {schema : Schema} {name : String} {type : FieldType}
    (h : schema.field? name = some type) (hr : type.isRelation = false) :
    Entries.contains schema.columns name := by
  have hinsert {fields : Entries FieldType} (key : String) (added : FieldType)
      (hadded : added.isRelation = false)
      (hf : ∃ held, Entries.find? fields name = some held ∧ held.isRelation = false) :
      ∃ held, Entries.find? (Entries.insert fields key added) name = some held ∧
        held.isRelation = false := by
    rw [Entries.find?_insert]
    split
    · exact ⟨added, rfl, hadded⟩
    · exact hf
  have hstored : ∃ held, schema.toStorage.field? name = some held ∧ held.isRelation = false := by
    have hpermissions := hinsert writePermissions (.arrayOf .string) rfl
      (hinsert readPermissions (.arrayOf .string) rfl ⟨type, h, hr⟩)
    unfold toStorage field?
    dsimp only
    split
    · exact hinsert passwordHash .string rfl hpermissions
    · exact hpermissions
  obtain ⟨held, hheld, hrelation⟩ := hstored
  unfold Entries.contains
  rw [find?_columns_of_declared hheld hrelation]
  rfl

theorem contains_columns_of_undeclared {schema : Schema} {name : String}
    (h : schema.toStorage.field? name = none) :
    Entries.contains schema.columns name = schema.supplies name := by
  have hcolumn : Entries.find? schema.toStorage.columnFields name = none := by
    unfold columnFields
    exact Entries.find?_filter_of_none (fun type => !type.isRelation) h
  unfold Entries.contains supplies
  rw [find?_columns, hcolumn, Option.none_or]
  rfl

theorem not_isRelation_of_mem_columns {schema : Schema} {column : String × FieldType}
    (h : column ∈ schema.columns) : column.2.isRelation = false := by
  have hadd (added : List (String × FieldType)) {fields : Entries FieldType}
      (hf : ∀ column ∈ fields, column.2.isRelation = false)
      (ha : ∀ column ∈ added, column.2.isRelation = false) :
      ∀ column ∈ addMissing fields added, column.2.isRelation = false := by
    unfold addMissing
    induction added generalizing fields with
    | nil => exact hf
    | cons first rest ih =>
      refine ih ?_ fun column hc => ha column (List.mem_cons_of_mem first hc)
      intro column hc
      rcases Entries.mem_insertNew hc with hold | rfl
      · exact hf column hold
      · exact ha first List.mem_cons_self
  have hstored : ∀ column ∈ schema.toStorage.columnFields, column.2.isRelation = false := by
    intro column hc
    have hkept := (List.mem_filter.1 hc).2
    simpa using hkept
  have hdefault := hadd defaultColumns hstored (by decide)
  unfold columns at h
  dsimp only at h
  split at h
  · exact hadd userColumns hdefault (by decide) column h
  · exact hdefault column h

end DocSql.Schema
