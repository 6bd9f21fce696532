import DocSql.Query.Filter
import DocSql.Update.Assignment

/-!
Updating and deleting the rows that a query selects, and counting them.
-/
namespace DocSql

open Sql (Assembly)

def Scope.table (scope : Scope) : String := Sql.identifier scope.schema.className

def Update.statement (scope : Scope) (query update : Json) : Except Error Statement := do
  let update ← ofJson update
  let query ← Query.ofJson query
  Assembly.statement do
    let set ← setClause scope.schema.toStorage update
    let filter ← Query.filter scope query
    return "UPDATE " ++ scope.table ++ " SET " ++ set ++ filter.whereClause ++ " RETURNING *"

namespace Query

def deleteStatement (scope : Scope) (query : Json) : Except Error Statement := do
  let query ← ofJson query
  Assembly.statement do
    let filter ← Query.filter scope query
    let pattern := if filter.isEmpty then "TRUE" else filter.pattern
    return "WITH deleted AS (DELETE FROM " ++ scope.table ++ " WHERE " ++ pattern ++
      " RETURNING *) SELECT count(*) FROM deleted"

def countStatement (scope : Scope) (query : Json) : Except Error Statement := do
  let query ← ofJson query
  Assembly.statement do
    let filter ← Query.filter scope query
    return "SELECT count(*) FROM " ++ scope.table ++ filter.whereClause

def estimatedCount (className : String) : Statement where
  sql := "SELECT reltuples AS approximate_row_count FROM pg_class WHERE relname = $1"
  params := [.text className]

end Query
end DocSql
