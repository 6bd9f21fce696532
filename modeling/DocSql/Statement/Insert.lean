import DocSql.Schema.Columns
import DocSql.Sql.Expr
import DocSql.Storage.Codec
import DocSql.Update.Basic

/-!
Inserting one document. Provider keys are folded into the `authData` column,
relations have no column, and keys inside untagged objects may not look like
operators or paths.
-/
namespace DocSql.Insert

open Sql (Expr Assembly)

def isForbidden (key : String) : Bool := key.toList.any fun c => c == '$' || c == '.'

mutual

def checkValue : Json → Except Error Unit
  | .obj members =>
    if (Json.obj members).typeTag?.isNone then checkMembers true members else .ok ()
  | _ => .ok ()

def checkMembers (nested : Bool) : List (String × Json) → Except Error Unit
  | [] => .ok ()
  | (key, value) :: rest => do
    if nested && isForbidden key then throw (.invalidQuery
      ("Nested keys should not contain the '$' or '.' characters: " ++ key))
    checkValue value
    checkMembers nested rest

end

def providers (document : Entries Json) : Entries Json :=
  Entries.ofList (document.filterMap fun (key, value) =>
    (Update.provider? key).map fun provider => (provider, value))

/-- The columns to write with their values; provider keys replace a whole `authData`. -/
def columns (schema : Schema) (document : Entries Json) : List (String × Json) :=
  let plain := document.filter fun (key, _) =>
    (Update.provider? key).isNone && !(schema.field? key).any FieldType.isRelation
  match providers document with
  | [] => plain
  | given => plain.filter (·.1 ≠ "authData") ++ [("authData", .obj given)]

def values (schema : Schema) (all : List (String × Json)) : Except Error (List Expr) :=
  let types := schema.columns
  all.mapM fun (name, value) => Expr.ofDatum <$> Datum.encode name (Entries.find? types name) value

def statement (schema : Schema) (document : Entries Json) : Except Error Statement := do
  checkMembers false document
  let all := columns schema document
  if all.isEmpty then throw (.invalidQuery "object has no columns to insert")
  let exprs ← values schema all
  Assembly.statement do
    let row ← exprs.mapM fun e => Assembly.bind e.fragment
    return "INSERT INTO " ++ Sql.identifier schema.className ++
      " (" ++ String.intercalate ", " (all.map fun column => Sql.identifier column.1) ++
      ") VALUES (" ++ String.intercalate ", " row ++ ")"

end DocSql.Insert
