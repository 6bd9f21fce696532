import DocSql.Statement.Metadata
import DocSql.Store.Basic

/-!
Indexes and unique constraints of a class. A change of several indexes is
checked as a whole before anything is asked, and is done in one transaction.
-/
namespace DocSql

structure IndexSpec where
  name : String
  fields : List String
deriving DecidableEq, Inhabited

structure IndexInfo where
  name : String
  definition : String
deriving DecidableEq, Inhabited

abbrev IndexMap := Entries (Entries Json)

namespace IndexMap

structure Change where
  indexes : IndexMap
  inserted : List IndexSpec := []
  deleted : List String := []
deriving Inhabited

def initial : IndexMap := [("_id_", [("_id", .int 1)])]

def isDelete (spec : Json) : Bool := spec.getStr? "__op" == some "Delete"

def refuse {α : Type} (text : String) : Except Error α := .error (.invalidQuery text)

def Change.add (fields : Entries FieldType) (change : Change) (entry : String × Json) :
    Except Error Change := do
  let (name, spec) := entry
  let present := Entries.contains change.indexes name
  if present && !isDelete spec then refuse ("Index " ++ name ++ " exists, cannot update.")
  else if !present && isDelete spec then
    refuse ("Index " ++ name ++ " does not exist, cannot delete.")
  else if isDelete spec then
    return { change with
      indexes := Entries.erase change.indexes name
      deleted := change.deleted ++ [name] }
  else
    let .obj keys := spec | refuse ("Index " ++ name ++ " must map fields to a direction")
    if let some key := (Entries.keys keys).find? (!Entries.contains fields ·) then
      refuse ("Field " ++ key ++ " does not exist, cannot add index.")
    else
      return { change with
        indexes := Entries.insert change.indexes name keys
        inserted := change.inserted ++ [{ name, fields := Entries.keys keys }] }

def change (existing : IndexMap) (fields : Entries FieldType) (submitted : Entries Json) :
    Except Error Change :=
  submitted.foldlM (Change.add fields) { indexes := if existing.isEmpty then initial else existing }

def toJson (indexes : IndexMap) : Json := .obj (Entries.mapValues .obj indexes)

end IndexMap

namespace Store

def createIndexes (className : String) (indexes : List IndexSpec) : Operation Unit :=
  Transaction.run (indexes.forM fun index =>
    Work.execute (Catalog.createIndex className index.name index.fields))

def dropIndexes (names : List String) : Operation Unit :=
  Transaction.run (names.forM fun name => Work.execute (Catalog.dropIndex name))

def indexInfo? (row : Row) : Option IndexInfo :=
  (row.textColumn? "indexname").map fun name =>
    { name, definition := (row.textColumn? "indexdef").getD "" }

def getIndexes (className : String) : Operation (List IndexInfo) := do
  return (← Operation.query (Catalog.listIndexes className)).filterMap indexInfo?

def setIndexes (store : Store) (className : String) (submitted : Entries Json)
    (existing : IndexMap) (fields : Entries FieldType) : Operation IndexMap := do
  let change ← IndexMap.change existing fields submitted
  Transaction.run do
    change.inserted.forM fun index =>
      Work.execute (Catalog.createIndex className index.name index.fields)
    change.deleted.forM fun name => Work.execute (Catalog.dropIndex name)
    Work.execute (store.catalog.setSchemaPath className ["indexes"] change.indexes.toJson)
  return change.indexes

def ensureIndex (className : String) (fields : List String) (name? : Option String)
    (foldCase : Bool) : Operation String := do
  let name := name?.getD (Catalog.defaultIndex fields)
  match ← Session.request (.execute (Catalog.ensureIndex className name fields foldCase)) with
  | .ok _ => return name
  | .error e =>
    if e.hasCode SqlState.duplicateTable && Text.occurs name e.root.message then return name
    else throw e.toError

/-- Makes fields unique together. A constraint that is there is accepted,
duplicates that are there are not. -/
def ensureUniqueness (className : String) (schema : Schema) (fields : List String) :
    Operation Unit := do
  let isKnown (field : String) := (schema.field? field).isSome || Schema.isDefaultColumn field
  if let some field := fields.find? (!isKnown ·) then
    throw (.invalidQuery ("Field " ++ field ++ " does not exist, cannot enforce uniqueness."))
  match ← Session.request (.execute (Catalog.addUniqueConstraint className fields)) with
  | .ok _ => return
  | .error e =>
    if e.isSchemaRace then return
    else if e.isUniqueViolation then throw (.duplicateValue fields.head?)
    else throw e.toError

end Store
end DocSql
