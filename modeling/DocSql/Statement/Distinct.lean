import DocSql.Query.Filter

/-!
The distinct values of a field. An array contributes its elements, which are
JSON whatever the declared type, and null values are left out.
-/
namespace DocSql

open Sql (Assembly)

structure Distinct where
  statement : Statement
  column : String
  /-- The type to decode values with, none where they are shown as they are. -/
  type? : Option FieldType
deriving Inhabited

namespace Distinct

def expression (field : String) (type? : Option FieldType) : String :=
  let column := Sql.identifier field
  if Sql.isDotted field then Sql.jsonPath field
  else if type?.any FieldType.isTextArray then "jsonb_array_elements(to_jsonb(" ++ column ++ "))"
  else if type?.any FieldType.isArray then "jsonb_array_elements(" ++ column ++ ")"
  else column

def plan (scope : Scope) (query : Json) (field : String) : Except Error Distinct := do
  let query ← Query.ofJson query
  let type? := if Sql.isDotted field then none else scope.schema.field? field
  let statement ← Assembly.statement do
    let filter ← Query.filter scope query
    return "SELECT DISTINCT " ++ expression field type? ++ " AS " ++ Sql.identifier field ++
      " FROM " ++ Sql.identifier scope.schema.className ++ filter.whereClause
  return { statement, column := field, type? := type?.filter (!·.isArray) }

def valueOf (plan : Distinct) (row : Row) : Except Error Json :=
  let raw := (Entries.find? row plan.column).getD .null
  match plan.type? with
  | some type => raw.decode type
  | none => .ok raw.toDocument

def values (plan : Distinct) (rows : List Row) : Except Error (List Json) := do
  return (← rows.mapM plan.valueOf).filter (!·.isNull)

end Distinct
end DocSql
