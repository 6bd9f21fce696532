import DocSql.Statement.Table

/-!
The metadata table: one row per class with its schema document.
-/
namespace DocSql.Catalog

open Sql (identifier)

def table (catalog : Catalog) : String := identifier catalog.metadataTable

def createMetadata (catalog : Catalog) : Statement where
  sql := "CREATE TABLE IF NOT EXISTS " ++ catalog.table ++ " (\"className\" " ++ catalog.idType ++
    ", \"schema\" jsonb, \"isParseClass\" bool, PRIMARY KEY (\"className\"))"

def insertSchema (catalog : Catalog) (schema : Schema) : Statement where
  sql := "INSERT INTO " ++ catalog.table ++ " (\"className\", \"schema\", \"isParseClass\") " ++
    "VALUES ($1, $2::jsonb, true) ON CONFLICT (\"className\") DO NOTHING"
  params := [.text schema.className, .json schema.toJson]

def updateSchema (catalog : Catalog) (schema : Schema) : Statement where
  sql := "UPDATE " ++ catalog.table ++ " SET \"schema\" = $1::jsonb WHERE \"className\" = $2"
  params := [.json schema.toJson, .text schema.className]

def selectSchema (catalog : Catalog) (className : String) : Statement where
  sql := "SELECT \"schema\" FROM " ++ catalog.table ++ " WHERE \"className\" = $1"
  params := [.text className]

def selectSchemas (catalog : Catalog) : Statement where
  sql := "SELECT \"className\", \"schema\" FROM " ++ catalog.table

/-- Has a row only where the field is declared. -/
def selectDeclaredField (catalog : Catalog) (className field : String) : Statement where
  sql := "SELECT \"schema\" FROM " ++ catalog.table ++
    " WHERE \"className\" = $1 AND (\"schema\"::jsonb->'fields'->$2) IS NOT NULL"
  params := [.text className, .text field]

def pathText (path : List String) : String :=
  "\x7b" ++ String.intercalate "," path ++ "\x7d"

def setSchemaPath (catalog : Catalog) (className : String) (path : List String) (value : Json) :
    Statement where
  sql := "UPDATE " ++ catalog.table ++
    " SET \"schema\" = jsonb_set(\"schema\", $1::text[], $2::jsonb) WHERE \"className\" = $3"
  params := [.text (pathText path), .json value, .text className]

def deleteSchema (catalog : Catalog) (className : String) : Statement where
  sql := "DELETE FROM " ++ catalog.table ++ " WHERE \"className\" = $1"
  params := [.text className]

end DocSql.Catalog
