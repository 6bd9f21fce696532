import DocSql.Schema.Columns
import DocSql.Sql.Expr
import DocSql.Storage.Codec
import DocSql.Update.Basic

/-!
Updates as assignments to columns. The value of each is an expression over the
stored one, built from jsonb operators and the helper functions of the engine.
-/
namespace DocSql

open Sql (Expr Assembly)

structure Assignment where
  column : String
  value : Expr
deriving Inhabited

namespace Assignment

def template (a : Assignment) : String := Sql.identifier a.column ++ " = " ++ a.value.template

end Assignment

def ListChange.function : ListChange → String
  | add => "array_add"
  | remove => "array_remove"
  | addUnique => "array_add_unique"

namespace Change

def unsupportedUpdate (name what : String) : Error := .unsupported
  ("Postgres doesn't support update of '" ++ name ++ "' (" ++ what ++ ") yet")

/-- A list change; a native text array goes through JSON and back. -/
def listExpr (column : Expr) (type? : Option FieldType) (change : ListChange) (items : List Json) :
    Expr :=
  let changed (stored : Expr) : Expr :=
    .apply₂ change.function (.coalesce stored .emptyList) (.json (.arr items))
  if type?.any FieldType.isTextArray then .elements (changed (.apply "to_jsonb" column))
  else changed column

def providersExpr (column : Expr) (entries : List (String × Option Json)) : Expr :=
  entries.foldl (fun stored (provider, value) =>
    .cast (.apply₃ "json_object_set_key" (.coalesce stored .emptyObject)
      (.cast (.text provider) "text")
      (.cast (.param ((value.map Datum.json).getD .null)) "jsonb")) "jsonb") column

def incrementExpr (column : Expr) (key : String) (amount : Number) : Expr :=
  .apply₂ "jsonb_build_object" (.cast (.text key) "text")
    (.combine "+"
      (.cast (.coalesce (.keyText column key) (.quoted "0")) "double precision")
      (.param (.ofNumber amount)))

def patchExpr (column : Expr) (keys : Patch) : Expr :=
  let start := if keys.merge then .coalesce column .emptyObject else .emptyObject
  let kept := keys.deletes.foldl
    (fun e key => .combine "-" e (.cast (.text key) "text")) start
  let counted := keys.increments.foldl
    (fun e (key, amount) => .combine "||" e (incrementExpr column key amount)) kept
  .paren (.combine "||" counted (.json (.obj keys.values)))

/-- A replaced value by its tag and the declared type; relations have no column. -/
def setExpr (name : String) (type? : Option FieldType) (value : Json) :
    Except Error (Option Expr) := do
  let isDate := type? == some .date || Schema.isDefaultDate name
  let plain : Except Error (Option Expr) := return some (.param (← Datum.infer value))
  let dated : Except Error (Option Expr) := do
    if isDate then return some (.param (.timestamp (← Timestamp.ofJson value))) else plain
  match value.typeTag?, value with
  | some "Relation", _ => return none
  | some "GeoPoint", _ => return some (.point (← GeoPoint.ofJson value).toPoint)
  | some "Polygon", _ => return some (.polygon (← Ring.ofJson value))
  | some "Date", _ => dated
  | some "Pointer", _ | some "File", _ => plain
  | _, .str _ => dated
  | _, .bool _ | _, .num _ => plain
  | _, .arr _ =>
    match type? with
    | some (.arrayOf .string) =>
      return some (.ofDatum (← Datum.encode name type? value))
    | some .array | some (.arrayOf _) => return some (.json value)
    | _ => throw (unsupportedUpdate name "array assignment to a non-Array field")
  | _, .obj _ =>
    match type? with
    | some .object | some .bytes => return some (.json value)
    | _ => throw (unsupportedUpdate name value.text)
  | _, .null => throw (unsupportedUpdate name value.text)

def expr (name : String) (type? : Option FieldType) : Change → Except Error (Option Expr)
  | unset => .ok (some .null)
  | increment amount =>
    .ok (some (.combine "+" (.coalesce (.column name) .zero) (.param (.ofNumber amount))))
  | list change items => .ok (some (listExpr (.column name) type? change items))
  | providers entries => .ok (some (providersExpr (.column name) entries))
  | patch keys =>
    if type? = some .object then .ok (some (patchExpr (.column name) keys))
    else .error (unsupportedUpdate name "partial update on a non-Object field")
  | set value => setExpr name type? value

end Change

namespace Update

def assignments (schema : Schema) (update : Update) : Except Error (List Assignment) := do
  let found ← update.mapM fun (name, change) => do
    return (← change.expr name (schema.field? name)).map (Assignment.mk name)
  return found.filterMap id

def setClause (schema : Schema) (update : Update) : Assembly String := do
  let all ← assignments schema update
  if all.isEmpty then throw (.invalidQuery "update has no assignable fields")
  Assembly.bind {
    template := String.intercalate ", " (all.map Assignment.template)
    params := all.flatMap fun a => a.value.params }

def compile (schema : Schema) (update : Json) (first : Nat) :
    Except Error (String × List Datum) := do
  Assembly.runFrom first (setClause schema.toStorage (← ofJson update))

end Update
end DocSql
