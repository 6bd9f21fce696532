import DocSql.Statement.Metadata

/-!
The statements that define a class on an empty engine, in the order they run:
the metadata table, the table of the class, a join table for each relation,
and the metadata of the class.
-/
namespace DocSql.Catalog

def joinTables (catalog : Catalog) (schema : Schema) : List Statement :=
  schema.relationFields.map fun (field, _) => catalog.createJoinTable schema.className field

def classDefinition (catalog : Catalog) (schema : Schema) : Except Error (List Statement) := do
  let table ← catalog.createTable schema
  return [catalog.createMetadata, table] ++ catalog.joinTables schema ++ [catalog.insertSchema schema]

end DocSql.Catalog
