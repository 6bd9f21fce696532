import DocSql.Statement.HelperFunction
import DocSql.Statement.Metadata
import DocSql.Store.Basic

/-!
Creating, changing and dropping classes. Several requests may change one class
at once, so finding done what was to be done is no failure; any other failure
undoes the transaction it happens in.
-/
namespace DocSql.Store

/-- Creating a table at once with another request may also collide inside the
engine's catalog, which is a unique violation there. -/
def isBenignCreation (e : EngineError) : Bool := e.isSchemaRace || e.isUniqueViolation

def ensureMetadata (store : Store) : Operation Unit := do
  match ← Session.request (.execute store.catalog.createMetadata) with
  | .ok _ => return
  | .error e => if isBenignCreation e then return else throw e.toError

def prepare (store : Store) : Operation Unit := do
  store.ensureMetadata
  Transaction.run (HelperFunction.all.forM fun f => Work.execute f.statement)

def createJoinTables (store : Store) (schema : Schema) : Work Unit :=
  schema.relationFields.forM fun (field, _) => do
    let _ ← Work.absorbing (store.catalog.createJoinTable schema.className field) isBenignCreation

def createInside (store : Store) (schema : Schema) : Work Unit := do
  let _ ← Work.absorbing (← store.catalog.createTable schema) isBenignCreation
  store.createJoinTables schema
  Work.execute (store.catalog.insertSchema schema)

def createClass (store : Store) (className : String) (schema : Schema) : Operation Schema := do
  let schema := schema.named className
  Transaction.run (store.createInside schema)
  return schema.toDocument

def existsFlag (rows : List Row) : Bool :=
  match rows.head?.bind fun row => Entries.find? row "exists" with
  | some (.bool b) => b
  | _ => false

def addColumn (store : Store) (className field : String) (type : FieldType) : Work Unit := do
  let statement ← store.catalog.addColumn className field type
  let applied ← Work.absorbing statement fun e => e.isSchemaRace || e.isMissingTable
  if !applied then
    unless existsFlag (← Work.query (Catalog.tableExists className)) do
      store.createInside { className, fields := [(field, type)] }

def declareField (store : Store) (className field : String) (type : FieldType) : Statement :=
  store.catalog.setSchemaPath className ["fields", field] type.toJson

def addFieldInside (store : Store) (className field : String) (type : FieldType) :
    Work Unit := do
  if type.isRelation then
    let _ ← Work.absorbing (store.catalog.createJoinTable className field) isBenignCreation
  else
    store.addColumn className field type
  let declared ← Work.query (store.catalog.selectDeclaredField className field)
  if declared.isEmpty then Work.execute (store.declareField className field type)

def addField (store : Store) (className field : String) (type : FieldType) : Operation Unit :=
  Transaction.run (store.addFieldInside className field type)

def updateFieldOptions (store : Store) (className field : String) (type : FieldType) :
    Operation Unit :=
  Operation.execute (store.declareField className field type)

/-- Takes fields out of the metadata and drops the columns they have; relations
only lose their declaration. -/
def deleteFields (store : Store) (className : String) (schema : Schema) (fields : List String) :
    Operation Unit := do
  let (remaining, columns) := fields.foldl (fun (remaining, columns) field =>
    let isColumn := !(Entries.find? remaining field).any FieldType.isRelation
    (Entries.erase remaining field, if isColumn then columns ++ [field] else columns))
    (schema.fields, [])
  let remaining := { schema.named className with fields := remaining }
  Transaction.run do
    Work.execute (store.catalog.updateSchema remaining)
    if let some statement := Catalog.dropColumns className columns then Work.execute statement

def setPermissions (store : Store) (className : String) (permissions : Json) :
    Operation Unit := do
  store.ensureMetadata
  Operation.execute
    (store.catalog.setSchemaPath className ["classLevelPermissions"] permissions)

def classExists (className : String) : Operation Bool := do
  return existsFlag (← Operation.query (Catalog.tableExists className))

/-- The schema of a metadata row; the row's class name fills in a missing one. -/
def storedSchema (className : String) (stored : Json) : Except Error Schema :=
  match Schema.ofJson? stored with
  | some schema =>
    .ok (if schema.className.isEmpty then schema.named className else schema)
  -- Behind the name of the class stand words of the JSON library, which are left open.
  | none => .error (.invalidSchema ("class '" ++ className ++ "': not a schema document"))

def getClass (store : Store) (className : String) : Operation Schema := do
  let rows ← Operation.query (store.catalog.selectSchema className)
  let some row := rows.head? | throw (.classNotFound className)
  let some stored ← row.jsonColumn "schema" | throw (.classNotFound className)
  return (← storedSchema className stored).toDocument

def schemaOfRow (row : Row) : Except Error (Option Schema) := do
  let className := (row.textColumn? "className").getD ""
  let some stored ← row.jsonColumn "schema" | return none
  return some (← storedSchema className stored).toDocument

def schemasOfRows (rows : List Row) : Except Error (List Schema) := do
  return (← rows.mapM schemaOfRow).filterMap id

def getClasses (store : Store) : Operation (List Schema) := do
  store.ensureMetadata
  let rows ← Operation.query store.catalog.selectSchemas
  schemasOfRows rows

def deleteClass (store : Store) (className : String) : Operation Unit :=
  Transaction.run do
    Work.execute (Catalog.dropTable className)
    Work.execute (store.catalog.deleteSchema className)

def tablesOfRow (row : Row) : Except Error (List String) := do
  let some className := row.textColumn? "className" | return []
  let joins ← match ← row.jsonColumn "schema" with
    | none => pure []
    | some stored =>
      let schema ← storedSchema className stored
      pure (schema.relationFields.map fun (field, _) => Schema.joinTable className field)
  return joins ++ [className]

def tablesOfRows (rows : List Row) : Except Error (List String) := do
  return (← rows.mapM tablesOfRow).flatten

def deleteAllClasses (store : Store) : Operation Unit := do
  let rows ← Operation.queryOr store.catalog.selectSchemas EngineError.isMissingTable [] pure
  let tables ← tablesOfRows rows
  Transaction.run ((store.catalog.metadataTable :: Catalog.systemTables ++ tables).forM
    fun table => Work.execute (Catalog.dropTable table))

def upgradeSchema (store : Store) (className : String) (schema : Schema) : Operation Unit := do
  let rows ← Operation.query (Catalog.tableColumns className)
  let present := rows.filterMap fun row => row.textColumn? "column_name"
  let schema := schema.named className
  let missing := schema.columns.filter fun column => !present.contains column.1
  (schema.relationFields ++ missing).forM fun (field, type) =>
    store.addField className field type

end DocSql.Store
