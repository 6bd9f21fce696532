import DocSql.Proofs.Outcome
import DocSql.Proofs.Schema.Columns
import DocSql.Statement.Table

/-!
Statements that make tables and columns. Their only failure is a relation in
the place of a column, so a table is made for every schema, with a column for
each declared field that has one.
-/
namespace DocSql

open Sql (identifier)

def Statement.AddsColumn (className field : String) (statement : Statement) : Prop :=
  ∃ type, statement.sql = "ALTER TABLE " ++ identifier className ++ " ADD COLUMN IF NOT EXISTS " ++
    identifier field ++ " " ++ type

/-- A statement that creates a table with these among its columns, unless there
is one of its name. -/
def Statement.CreatesTable (className : String) (fields : List String) (statement : Statement) :
    Prop :=
  ∃ definitions, statement.sql = "CREATE TABLE IF NOT EXISTS " ++ identifier className ++ " (" ++
      String.intercalate ", " definitions ++ ")" ∧
    ∀ field ∈ fields, ∃ type, identifier field ++ " " ++ type ∈ definitions

theorem Statement.CreatesTable.of_mem {className : String} {fields fewer : List String}
    {statement : Statement} (h : statement.CreatesTable className fields)
    (hf : ∀ field ∈ fewer, field ∈ fields) : statement.CreatesTable className fewer := by
  obtain ⟨definitions, hsql, hall⟩ := h
  exact ⟨definitions, hsql, fun field hfield => hall field (hf field hfield)⟩

namespace Catalog

variable (catalog : Catalog)

theorem columnType_ok (name : String) {type : FieldType} (h : type.isRelation = false) :
    ∃ text, catalog.columnType name type = .ok text := by
  unfold columnType
  split
  · exact ⟨_, rfl⟩
  · cases type with
    | relation target => cases h
    | _ => exact ⟨_, rfl⟩

theorem columnDefinition_ok {column : String × FieldType} (h : column.2.isRelation = false) :
    ∃ definitions, catalog.columnDefinition column = .ok definitions ∧
      ∃ type, identifier column.1 ++ " " ++ type ∈ definitions := by
  obtain ⟨type, htype⟩ := catalog.columnType_ok column.1 h
  unfold columnDefinition
  dsimp only
  rw [htype]
  refine ⟨_, rfl, type, ?_⟩
  split
  · exact List.mem_cons_self
  · exact List.mem_cons_self

theorem addColumn_ok (className field : String) {type : FieldType} (h : type.isRelation = false) :
    ∃ statement, catalog.addColumn className field type = .ok statement ∧
      statement.AddsColumn className field := by
  obtain ⟨text, htext⟩ := catalog.columnType_ok field h
  unfold addColumn
  rw [htext]
  exact ⟨_, rfl, text, rfl⟩

theorem createTable_ok (schema : Schema) :
    ∃ statement, catalog.createTable schema = .ok statement ∧
      statement.CreatesTable schema.className (Entries.keys schema.columns) := by
  obtain ⟨definitions, hok, hall⟩ : ∃ definitions,
      schema.columns.mapM catalog.columnDefinition = .ok definitions ∧
        ∀ column ∈ schema.columns, ∃ type,
          identifier column.1 ++ " " ++ type ∈ definitions.flatten := by
    have hcolumns : ∀ column ∈ schema.columns, column.2.isRelation = false :=
      fun _ => Schema.not_isRelation_of_mem_columns
    generalize schema.columns = columns at hcolumns
    induction columns with
    | nil => exact ⟨[], rfl, fun column hc => absurd hc List.not_mem_nil⟩
    | cons column rest ih =>
      obtain ⟨first, hfirst, type, htype⟩ :=
        catalog.columnDefinition_ok (hcolumns column List.mem_cons_self)
      obtain ⟨others, hothers, hall⟩ := ih fun other ho => hcolumns other (List.mem_cons_of_mem _ ho)
      refine ⟨first :: others, by rw [List.mapM_cons, hfirst, hothers]; rfl, ?_⟩
      intro other ho
      rw [List.flatten_cons]
      rcases List.mem_cons.1 ho with rfl | hrest
      · exact ⟨type, List.mem_append_left _ htype⟩
      · exact (hall other hrest).imp fun _ => List.mem_append_right _
  unfold createTable
  rw [hok]
  refine ⟨_, rfl, definitions.flatten, rfl, ?_⟩
  intro field hfield
  obtain ⟨column, hc, rfl⟩ := List.mem_map.1 hfield
  exact hall column hc

end Catalog
end DocSql
