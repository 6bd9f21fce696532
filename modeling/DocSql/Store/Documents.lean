import DocSql.Statement.Aggregate
import DocSql.Statement.Distinct
import DocSql.Statement.Find
import DocSql.Statement.Insert
import DocSql.Statement.Modify
import DocSql.Storage.Document
import DocSql.Store.Basic

/-!
Operations on the documents of a class. A request that does not compile fails
before anything is asked, except that an estimated count is asked for first;
reading a class that has no table yet finds nothing.
-/
namespace DocSql.Store

def expectObject (value : Json) : Except Error (Entries Json) :=
  match value with
  | .obj members => .ok members
  | _ => .error (.invalidQuery ("expected an object, got " ++ value.text))

def create (className : String) (schema : Schema) (document : Json) : Operation Json := do
  let members ← expectObject document
  Operation.execute (← Insert.statement (schema.named className) members)
  return document

def plainRow (row : Row) : Json := .obj (Entries.mapValues Datum.toDocument row)

def find (store : Store) (className : String) (schema : Schema) (query : Json)
    (options : Find.Options) (foldCase : Bool) : Operation (List Json) := do
  let scope := store.scope className schema foldCase
  let statement ← Find.statement scope query options
  Operation.queryOr statement EngineError.isMissingTable [] fun rows => do
    if options.explain then return rows.map plainRow
    Row.toDocuments scope.schema rows

def maxCount : Int := 18446744073709551615

def estimatedCount (className : String) : Operation (Option Nat) := do
  let rows ← Operation.query (Query.estimatedCount className)
  let estimate := (rows.head?.bind fun row => Entries.find? row "approximate_row_count").bind
    Datum.toDouble?
  return (estimate.filter (Double.le .zero)).map fun x => (x.clampTo 0 maxCount).toNat

def selectsAll (query : Json) : Bool :=
  match query with
  | .obj members => members.isEmpty
  | _ => true

def countOf (rows : List Row) : Option Int := rows.head?.bind fun row => row.intColumn? "count"

def exactCount (store : Store) (className : String) (schema : Schema) (query : Json) :
    Operation Nat := do
  let statement ← Query.countStatement (store.scope className schema false) query
  Operation.queryOr statement EngineError.isMissingTable 0 fun rows =>
    return ((countOf rows).getD 0).toNat

def count (store : Store) (className : String) (schema : Schema) (query : Json) :
    Operation Nat := do
  if selectsAll query && store.settings.estimateCount then
    if let some n ← estimatedCount className then return n
  store.exactCount className schema query

def distinct (store : Store) (className : String) (schema : Schema) (query : Json)
    (field : String) : Operation (List Json) := do
  let plan ← Distinct.plan (store.scope className schema false) query field
  Operation.queryOr plan.statement (fun e => e.isMissingColumn || e.isMissingTable) [] fun rows =>
    plan.values rows

def update (store : Store) (className : String) (schema : Schema) (query update : Json) :
    Operation (List Json) := do
  let scope := store.scope className schema false
  let rows ← Operation.query (← Update.statement scope query update)
  Row.toDocuments scope.schema rows

def updateFirst (store : Store) (className : String) (schema : Schema) (query update : Json) :
    Operation (Option Json) := do
  return (← store.update className schema query update).head?

/-- Adds the document made of a query and an update, or updates what is there
where it collides with a unique value. -/
def upsert (store : Store) (className : String) (schema : Schema) (query update : Json) :
    Operation (Option Json) := do
  let start ← expectObject query
  let members ← expectObject update
  let document := Json.obj
    (members.foldl (fun all member => Entries.insert all member.1 member.2) start)
  tryCatch (some <$> create className schema document) fun
    | .duplicateValue _ => store.updateFirst className schema query update
    | e => throw e

/-- A negative count that an engine should never send wraps to 64 bits. -/
def deletedCount (n : Int) : Nat := (n % (maxCount + 1)).toNat

def delete (store : Store) (className : String) (schema : Schema) (query : Json) :
    Operation Nat := do
  let statement ← Query.deleteStatement (store.scope className schema false) query
  Operation.queryOr statement EngineError.isMissingTable 0 fun rows => do
    let n := (countOf rows).getD 0
    if n = 0 then throw .objectNotFound
    return deletedCount n

def decodeRows (schema : Schema) (rows : List Row) : Except Error (List (Entries Json)) :=
  rows.mapM fun row => row.mapM fun (column, raw) =>
    return (column, ← schema.decodeColumn column raw)

def aggregate (store : Store) (className : String) (schema : Schema) (pipeline : List Json) :
    Operation (List Json) := do
  let scope := store.scope className schema false
  let plan ← Aggregate.plan scope className pipeline
  Operation.queryOr plan.statement EngineError.isMissingTable [] fun rows => do
    return plan.results (← decodeRows scope.schema rows)

end DocSql.Store
