import DocSql.Schema.Columns
import DocSql.Sql.Builder
import DocSql.Sql.Quote

/-!
Tables, join tables, columns and indexes. Every statement that creates or drops
says so only if it is not done yet, so that it can be repeated.
-/
namespace DocSql

open Sql (identifier)

structure Catalog where
  metadataTable : String := "_SCHEMA"
  idWidth : Nat := 120
deriving DecidableEq, Inhabited

namespace Catalog

def systemTables : List String :=
  ["_PushStatus", "_JobStatus", "_JobSchedule", "_Hooks", "_GlobalConfig", "_GraphQLConfig",
    "_Audience", "_Idempotency"]

def idType (catalog : Catalog) : String := "varchar(" ++ toString catalog.idWidth ++ ")"

def identifiers (names : List String) : String :=
  String.intercalate ", " (names.map identifier)

/-- The object identifier has the width of pointers to it, whatever its type. -/
def columnType (catalog : Catalog) (name : String) (type : FieldType) : Except Error String :=
  if name = "objectId" then .ok catalog.idType else type.columnType

def columnDefinition (catalog : Catalog) (column : String × FieldType) :
    Except Error (List String) := do
  let (name, type) := column
  let definition := identifier name ++ " " ++ (← catalog.columnType name type)
  return if name = "objectId" then [definition, "PRIMARY KEY (" ++ identifier name ++ ")"]
    else [definition]

def createTable (catalog : Catalog) (schema : Schema) : Except Error Statement := do
  let columns ← schema.columns.mapM catalog.columnDefinition
  return { sql := "CREATE TABLE IF NOT EXISTS " ++ identifier schema.className ++ " (" ++
    String.intercalate ", " columns.flatten ++ ")" }

def createJoinTable (catalog : Catalog) (className field : String) : Statement where
  sql := "CREATE TABLE IF NOT EXISTS " ++ identifier (Schema.joinTable className field) ++
    " (\"relatedId\" " ++ catalog.idType ++ ", \"owningId\" " ++ catalog.idType ++
    ", PRIMARY KEY (\"relatedId\", \"owningId\"))"

def dropTable (table : String) : Statement where
  sql := "DROP TABLE IF EXISTS " ++ identifier table

def addColumn (catalog : Catalog) (className field : String) (type : FieldType) :
    Except Error Statement := do
  return { sql := "ALTER TABLE " ++ identifier className ++ " ADD COLUMN IF NOT EXISTS " ++
    identifier field ++ " " ++ (← catalog.columnType field type) }

def dropColumns (className : String) (fields : List String) : Option Statement :=
  if fields.isEmpty then none
  else some { sql := "ALTER TABLE " ++ identifier className ++ " " ++
    String.intercalate ", " (fields.map ("DROP COLUMN IF EXISTS " ++ identifier ·)) }

def tableColumns (className : String) : Statement where
  sql := "SELECT column_name FROM information_schema.columns WHERE table_name = $1"
  params := [.text className]

def tableExists (className : String) : Statement where
  sql := "SELECT EXISTS (SELECT 1 FROM information_schema.tables WHERE table_name = $1) " ++
    "AS \"exists\""
  params := [.text className]

def indexOn (className name : String) (columns : List String) : Statement where
  sql := "CREATE INDEX IF NOT EXISTS " ++ identifier name ++ " ON " ++ identifier className ++
    " (" ++ String.intercalate ", " columns ++ ")"

def createIndex (className name : String) (fields : List String) : Statement :=
  indexOn className name (fields.map identifier)

/-- An index over lower case texts serves searches by their beginning. -/
def ensureIndex (className name : String) (fields : List String) (foldCase : Bool) : Statement :=
  indexOn className name (fields.map fun field =>
    if foldCase then "lower(" ++ identifier field ++ ") varchar_pattern_ops" else identifier field)

def dropIndex (name : String) : Statement where
  sql := "DROP INDEX IF EXISTS " ++ identifier name

def listIndexes (className : String) : Statement where
  sql := "SELECT indexname, indexdef FROM pg_indexes WHERE tablename = $1"
  params := [.text className]

def joinedFields (fields : List String) : String :=
  String.intercalate "_" (fields.mergeSort fun a b => !(b < a))

def uniqueConstraint (className : String) (fields : List String) : String :=
  className ++ "_unique_" ++ joinedFields fields

def defaultIndex (fields : List String) : String := "pgdoc_default_" ++ joinedFields fields

def addUniqueConstraint (className : String) (fields : List String) : Statement where
  sql := "ALTER TABLE " ++ identifier className ++ " ADD CONSTRAINT " ++
    identifier (uniqueConstraint className fields) ++ " UNIQUE (" ++ identifiers fields ++ ")"

end Catalog
end DocSql
