import DocSql.Proofs.Schema.Views
import DocSql.Proofs.Sql.TableText
import DocSql.Proofs.Statement.Table

/-!
The table of a class as its definition reads. It has one column for each name that
the schema declares with a column, that the storage view sets, or that is supplied
for every table; a relation is no column, and one that is declared under a supplied
name gives way to the supplied column. The object identifier is the primary key.
Main statement: `Catalog.createTable_defines`.
-/
namespace DocSql

namespace Schema

variable {schema : Schema}

theorem find?_columnFields (hs : (Entries.keys schema.fields).Pairwise (· < ·)) (name : String) :
    Entries.find? schema.columnFields name =
      (Entries.find? schema.fields name).filter (!·.isRelation) := by
  cases hfield : Entries.find? schema.fields name with
  | none => exact Entries.find?_filter_of_none (fun type => !type.isRelation) hfield
  | some type =>
    cases hrelation : type.isRelation with
    | false =>
      have hkept : (!type.isRelation) = true := by simp [hrelation]
      rw [Option.filter_some, if_pos hkept]
      exact Entries.find?_filter_of_some (fun type => !type.isRelation) hfield hkept
    | true =>
      rw [Option.filter_some, if_neg (by simp [hrelation]), Entries.find?_eq_none_iff]
      intro hmem
      obtain ⟨⟨key, held⟩, hentry, rfl⟩ := List.mem_map.1 hmem
      obtain ⟨hdeclared, hheld⟩ := List.mem_filter.1 hentry
      rw [Entries.find?_of_mem hs hdeclared] at hfield
      cases hfield
      simp [hrelation] at hheld

theorem isRelation_storageFields {name : String} {type : FieldType}
    (h : Entries.find? schema.storageFields name = some type) : type.isRelation = false := by
  have hall : ∀ entry ∈ schema.storageFields, entry.2.isRelation = false := by
    unfold storageFields
    split
    · decide
    · decide
  exact hall _ (Entries.mem_of_find? h)

theorem mem_keys_columns_iff (hs : (Entries.keys schema.fields).Pairwise (· < ·))
    (name : String) : name ∈ Entries.keys schema.columns ↔
      (∃ type, schema.field? name = some type ∧ type.isRelation = false) ∨
        name ∈ Entries.keys schema.storageFields ∨ name ∈ Entries.keys schema.suppliedColumns := by
  rw [Entries.mem_keys_iff, Entries.mem_keys_iff, Entries.mem_keys_iff]
  simp only [← Option.isSome_iff_exists]
  rw [find?_columns, find?_columnFields (fields_toStorage_sorted hs), find?_fields_toStorage,
    Option.isSome_or]
  cases hstorage : Entries.find? schema.storageFields name with
  | some type => simp [isRelation_storageFields hstorage]
  | none =>
    rw [Option.none_or]
    change _ ↔ (∃ type, Entries.find? schema.fields name = some type ∧ _) ∨ _
    cases Entries.find? schema.fields name with
    | none => simp
    | some type => cases h : type.isRelation <;> simp [h]

theorem addMissing_sorted (added : List (String × FieldType)) {fields : Entries FieldType}
    (h : (Entries.keys fields).Pairwise (· < ·)) :
    (Entries.keys (addMissing fields added)).Pairwise (· < ·) := by
  unfold addMissing
  induction added generalizing fields with
  | nil => exact h
  | cons column rest ih => exact ih (Entries.insertNew_sorted column.1 column.2 h)

theorem columns_sorted (hs : (Entries.keys schema.fields).Pairwise (· < ·)) :
    (Entries.keys schema.columns).Pairwise (· < ·) := by
  have hfields : (Entries.keys schema.toStorage.columnFields).Pairwise (· < ·) :=
    (fields_toStorage_sorted hs).sublist (List.filter_sublist.map _)
  have hdefault := addMissing_sorted defaultColumns hfields
  unfold columns
  dsimp only
  split
  · exact addMissing_sorted userColumns hdefault
  · exact hdefault

end Schema

open Sql (IsItem IsType IsWord TableItem)

theorem isType_of_word {type : String} (h : IsWord type.toList)
    (he : Sql.endsItem type.toList = false) : IsType type :=
  ⟨_, .single h he⟩

theorem FieldType.columnType_isType {type : FieldType} {text : String}
    (h : type.columnType = .ok text) : IsType text := by
  cases type with
  | number =>
    cases h
    have hdouble : IsItem "double".toList ["double".toList] := .single (by decide) (by decide)
    have hprecision : IsItem "precision".toList ["precision".toList] :=
      .single (by decide) (by decide)
    exact ⟨_, hdouble.append hprecision⟩
  | arrayOf contents =>
    cases h
    split
    · exact isType_of_word (by decide) (by decide)
    · exact isType_of_word (by decide) (by decide)
  | relation target => cases h
  | string | boolean | date | object | bytes | file | pointer _ | geoPoint | polygon | array =>
    cases h
    exact isType_of_word (by decide) (by decide)

namespace Catalog

variable (catalog : Catalog)

theorem idType_isType : IsType catalog.idType := by
  let width := (toString catalog.idWidth).toList
  have hwidth : Sql.IsClosed width := by
    have hdigits : width = Nat.toDigits 10 catalog.idWidth := Nat.toList_repr
    apply Sql.walk_flat rfl
    intro c hc
    rw [hdigits] at hc
    have hdigit := Sql.isDigit_flat (Sql.isDigit_toDigits catalog.idWidth c hc)
    exact ⟨hdigit.1, by simp⟩
  have hword : IsWord ("varchar".toList ++ ("(".toList ++ (width ++ ")".toList))) :=
    (Sql.isWord_of_isName (by decide)).append hwidth.parenthesized
  have hlist : catalog.idType.toList = "varchar".toList ++ ("(".toList ++ (width ++ ")".toList)) := by
    simp [idType, width]
  refine isType_of_word (by rw [hlist]; exact hword) ?_
  have hlast : catalog.idType.toList.getLast? = some ')' := by
    rw [hlist]
    simp only [← List.append_assoc]
    exact List.getLast?_concat
  rw [Sql.endsItem, hlast]
  rfl

theorem columnType_isType {name : String} {type : FieldType} {text : String}
    (h : catalog.columnType name type = .ok text) : IsType text := by
  unfold columnType at h
  split at h
  · cases h
    exact catalog.idType_isType
  · exact FieldType.columnType_isType h

/-- What an item says of a column of the table. -/
def Defines (column : String × FieldType) (definition : String × String) : Prop :=
  definition.1 = column.1 ∧ catalog.columnType column.1 column.2 = .ok definition.2

theorem names_of_defines {columns : List (String × FieldType)}
    {definitions : List (String × String)}
    (h : List.Forall₂ catalog.Defines columns definitions) :
    definitions.map (·.1) = Entries.keys columns := by
  induction h with
  | nil => rfl
  | cons hfirst _ ih =>
    rw [List.map_cons, ih, hfirst.1]
    rfl

theorem columnDefinition_reads {column : String × FieldType} (h : column.2.isRelation = false) :
    ∃ texts items, catalog.columnDefinition column = .ok texts ∧
      List.Forall₂ Sql.Reads texts items ∧
      (∃ definition, items.filterMap TableItem.column? = [definition] ∧
        catalog.Defines column definition) ∧
      items.filterMap TableItem.primaryKey? = [column.1].filter (· = "objectId") := by
  obtain ⟨name, type⟩ := column
  obtain ⟨text, htext⟩ := catalog.columnType_ok name h
  have hcolumn := Sql.column_reads name (catalog.columnType_isType htext)
  have hdefines : catalog.Defines (name, type) (name, text) := ⟨rfl, htext⟩
  unfold columnDefinition
  dsimp only
  rw [htext]
  by_cases hid : name = "objectId"
  · refine ⟨_, [.column name text, .primaryKey name], rfl, ?_, ⟨_, rfl, hdefines⟩, ?_⟩
    · rw [if_pos hid]
      exact .cons hcolumn (.cons (Sql.primaryKey_reads name) .nil)
    · rw [List.filter_cons_of_pos (by simpa using hid)]
      rfl
  · refine ⟨_, [.column name text], rfl, ?_, ⟨_, rfl, hdefines⟩, ?_⟩
    · rw [if_neg hid]
      exact .cons hcolumn .nil
    · rw [List.filter_cons_of_neg (by simpa using hid)]
      rfl

theorem columnDefinitions_read {columns : List (String × FieldType)}
    (h : ∀ column ∈ columns, column.2.isRelation = false) :
    ∃ texts items, columns.mapM catalog.columnDefinition = .ok texts ∧
      List.Forall₂ Sql.Reads texts.flatten items ∧
      List.Forall₂ catalog.Defines columns (items.filterMap TableItem.column?) ∧
      items.filterMap TableItem.primaryKey? =
        (Entries.keys columns).filter (· = "objectId") := by
  induction columns with
  | nil => exact ⟨[], [], rfl, .nil, .nil, rfl⟩
  | cons column rest ih =>
    obtain ⟨hcolumn, hrest⟩ := List.forall_mem_cons.1 h
    obtain ⟨first, item, hfirst, hreads, ⟨definition, hone, hdefines⟩, hkey⟩ :=
      catalog.columnDefinition_reads hcolumn
    obtain ⟨texts, items, htexts, hothers, hall, hkeys⟩ := ih hrest
    refine ⟨first :: texts, item ++ items, ?_, ?_, ?_, ?_⟩
    · rw [List.mapM_cons, hfirst, htexts]
      rfl
    · rw [List.flatten_cons]
      exact List.rel_append hreads hothers
    · rw [List.filterMap_append, hone]
      exact .cons hdefines hall
    · rw [List.filterMap_append, hkey, hkeys, ← List.filter_append]
      rfl

/-- A table is created for every schema, and its definition reads as one column for
each name of the schema's columns, in order and with the type that goes with it,
and the object identifier as its only primary key. Relations are no columns, and
the object identifier and the permissions always are. -/
theorem createTable_defines (schema : Schema)
    (hs : (Entries.keys schema.fields).Pairwise (· < ·)) :
    ∃ statement items, catalog.createTable schema = .ok statement ∧ statement.params = [] ∧
      Sql.readTable? statement.sql = some (schema.className, items) ∧
      List.Forall₂ catalog.Defines schema.columns (items.filterMap TableItem.column?) ∧
      items.filterMap TableItem.primaryKey? = ["objectId"] ∧
      (Entries.keys schema.columns).Pairwise (· < ·) ∧
      (∀ name ∈ ["objectId", Schema.readPermissions, Schema.writePermissions],
        name ∈ Entries.keys schema.columns) ∧
      (∀ column ∈ schema.columns, column.2.isRelation = false) ∧
      ∀ name, name ∈ Entries.keys schema.columns ↔
        (∃ type, schema.field? name = some type ∧ type.isRelation = false) ∨
          name ∈ Entries.keys schema.storageFields ∨
          name ∈ Entries.keys schema.suppliedColumns := by
  have hrelation : ∀ column ∈ schema.columns, column.2.isRelation = false :=
    fun _ => Schema.not_isRelation_of_mem_columns
  have hsorted := Schema.columns_sorted hs
  have hmem := Schema.mem_keys_columns_iff hs
  have hid : "objectId" ∈ Entries.keys schema.columns :=
    (hmem _).2 (.inr (.inr List.mem_cons_self))
  have hread : Schema.readPermissions ∈ Entries.keys schema.columns :=
    (hmem _).2 (.inr (.inl List.mem_cons_self))
  have hwrite : Schema.writePermissions ∈ Entries.keys schema.columns :=
    (hmem _).2 (.inr (.inl (List.mem_cons_of_mem _ List.mem_cons_self)))
  obtain ⟨texts, items, htexts, hreads, hdefines, hkeys⟩ :=
    catalog.columnDefinitions_read hrelation
  have hkey : items.filterMap TableItem.primaryKey? = ["objectId"] := by
    rw [hkeys, List.filter_eq, List.count_eq_one_of_mem (Entries.keys_nodup hsorted) hid]
    rfl
  have hne : texts.flatten ≠ [] := by
    intro hnone
    rw [hnone, List.forall₂_nil_left_iff] at hreads
    rw [hreads] at hkey
    cases hkey
  let statement : Statement := {
    sql := "CREATE TABLE IF NOT EXISTS " ++ Sql.identifier schema.className ++ " (" ++
      String.intercalate ", " texts.flatten ++ ")" }
  have hok : catalog.createTable schema = .ok statement := by
    rw [createTable, htexts]
    rfl
  refine ⟨statement, items, hok, rfl, Sql.readTable?_of_reads schema.className hreads hne,
    hdefines, hkey, hsorted, ?_, hrelation, hmem⟩
  simpa using ⟨hid, hread, hwrite⟩

/-- A class that declares the object identifier and a permission as relations, and
members that stand in a join table. -/
theorem overlaid_relations_defined :
    let schema : Schema := {
      className := "Team"
      fields := [("_rperm", .relation "Role"), ("members", .relation "_User"),
        ("name", .string), ("objectId", .relation "_User")] }
    ∃ statement items, ({} : Catalog).createTable schema = .ok statement ∧
      Sql.readTable? statement.sql = some ("Team", items) ∧
      (items.filterMap TableItem.column?).map (·.1) =
        ["_rperm", "_wperm", "createdAt", "name", "objectId", "updatedAt"] ∧
      items.filterMap TableItem.primaryKey? = ["objectId"] := by
  intro schema
  have hs : (Entries.keys schema.fields).Pairwise (· < ·) := by decide
  obtain ⟨statement, items, hok, -, hread, hdefines, hkey, -⟩ :=
    ({} : Catalog).createTable_defines schema hs
  refine ⟨statement, items, hok, hread, ?_, hkey⟩
  rw [names_of_defines _ hdefines]
  decide

end Catalog
end DocSql
