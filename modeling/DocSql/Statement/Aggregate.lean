import DocSql.Query.Filter

/-!
Pipelines as one SELECT. Stages gather into the clauses of the statement, which
stand in their own order whatever the order of the stages; a stage that comes
again adds columns, groups and filters, and replaces the order and the page.
-/
namespace DocSql

open Sql (Assembly)

structure Aggregate where
  statement : Statement
  /-- Names of a key of several parts, which results fold into `objectId`. -/
  groupAliases : List String
  /-- The field that holds a number of rows. -/
  countField : Option String
deriving Inhabited

namespace Aggregate

structure Clauses where
  columns : List String := []
  groupBy : List String := []
  filters : List String := []
  orderBy : Option String := none
  limit : Option String := none
  offset : Option String := none
  groupAliases : List String := []
  countField : Option String := none
deriving Inhabited

def referencedField (reference : String) : String :=
  if reference = "$_created_at" then "createdAt"
  else if reference = "$_updated_at" then "updatedAt"
  else match reference.toList with
    | '$' :: name => String.ofList name
    | _ => reference

def referencedColumn (reference : String) : String := Sql.identifier (referencedField reference)

def outputName (name : String) : String := if name = "_id" then "objectId" else name

def datePart? : String → Option String
  | "$dayOfMonth" => some "DAY"
  | "$dayOfWeek" => some "DOW"
  | "$dayOfYear" => some "DOY"
  | "$isoDayOfWeek" => some "ISODOW"
  | "$isoWeekYear" => some "ISOYEAR"
  | "$hour" => some "HOUR"
  | "$minute" => some "MINUTE"
  | "$second" => some "SECOND"
  | "$millisecond" => some "MILLISECONDS"
  | "$month" => some "MONTH"
  | "$week" => some "WEEK"
  | "$year" => some "YEAR"
  | _ => none

def expectsReference (operator : String) : Error :=
  .invalidQuery (operator ++ " expects a field reference")

def keyExpr (name : String) (source : Json) : Except Error String :=
  let bad : Error := .invalidQuery ("bad group key '" ++ name ++ "': " ++ source.text)
  match source with
  | .str reference => if reference.isEmpty then .error bad else .ok (referencedColumn reference)
  | .obj [] => .error (.invalidQuery ("bad group key '" ++ name ++ "'"))
  | .obj ((operator, reference) :: _) => do
    let some part := datePart? operator
      | throw (.unsupported ("unsupported group key operator: " ++ operator))
    let some reference := reference.str? | throw (expectsReference operator)
    return "EXTRACT(" ++ part ++ " FROM " ++ referencedColumn reference ++
      " AT TIME ZONE 'UTC')::integer"
  | _ => .error bad

def addKeyPart (clauses : Clauses) (part : String × Json) : Except Error Clauses := do
  let (name, source) := part
  let expr ← keyExpr name source
  return { clauses with
    columns := clauses.columns ++ [expr ++ " AS " ++ Sql.identifier name]
    groupBy := if clauses.groupBy.contains expr then clauses.groupBy else clauses.groupBy ++ [expr]
    groupAliases := clauses.groupAliases ++ [name] }

def addKey (clauses : Clauses) (key : Json) : Except Error Clauses :=
  let bad : Error := .invalidQuery ("bad $group _id: " ++ key.text)
  match key with
  | .str reference =>
    if reference.isEmpty then .error bad
    else
      let column := referencedColumn reference
      .ok { clauses with
        columns := clauses.columns ++ [column ++ " AS \"objectId\""]
        groupBy := clauses.groupBy ++ [column] }
  | .obj (part :: parts) => (part :: parts).foldlM addKeyPart clauses
  | _ => .error bad

def accumulator? : String → Option String
  | "$max" => some "MAX"
  | "$min" => some "MIN"
  | "$avg" => some "AVG"
  | _ => none

def addAccumulator (field : String) (clauses : Clauses) (entry : String × Json) :
    Except Error Clauses := do
  let (operator, source) := entry
  let column (text : String) : Clauses :=
    { clauses with columns := clauses.columns ++ [text ++ " AS " ++ Sql.identifier field] }
  if operator = "$sum" then
    match source.str? with
    | some reference => return column ("SUM(" ++ referencedColumn reference ++ ")")
    | none => return { column "COUNT(*)" with countField := some field }
  let some function := accumulator? operator
    | throw (.unsupported ("unsupported accumulator: " ++ operator))
  let some reference := source.str? | throw (expectsReference operator)
  return column (function ++ "(" ++ referencedColumn reference ++ ")")

def addGroupMember (clauses : Clauses) (member : String × Json) : Except Error Clauses :=
  let (field, value) := member
  if value.isNull then .ok clauses
  else if field = "_id" then addKey clauses value
  else match value with
    | .obj accumulators => accumulators.foldlM (addAccumulator field) clauses
    | _ => .error (.invalidQuery ("bad accumulator for '" ++ field ++ "': " ++ value.text))

def addGroup (clauses : Clauses) (spec : Json) : Except Error Clauses :=
  match spec with
  | .obj members => members.foldlM addGroupMember clauses
  | _ => .error (.invalidQuery "$group must be an object")

def isShown (value : Json) : Bool :=
  match value with
  | .bool b => b
  | _ => value.toInt64? == some 1

def addProjection (clauses : Clauses) (spec : Json) : Except Error Clauses :=
  match spec with
  | .obj members =>
    let shown := members.filter fun member => isShown member.2
    .ok { clauses with
      columns := clauses.columns ++ shown.map fun member => Sql.identifier (outputName member.1) }
  | _ => .error (.invalidQuery "$project must be an object")

def sortKeys (spec : Json) : Except Error String :=
  match spec with
  | .obj (key :: keys) =>
    .ok (String.intercalate ", " ((key :: keys).map fun (field, direction) =>
      Sql.identifier (outputName field) ++
        (if direction.toInt64? = some 1 then " ASC" else " DESC")))
  | _ => .error (.invalidQuery "$sort must be a non-empty object")

mutual

def renameId : Json → Json
  | .obj members => .object (renameMembers members)
  | other => other

def renameMembers : List (String × Json) → List (String × Json)
  | [] => []
  | (key, value) :: rest =>
    (outputName key, if (Group.ofKey? key).isSome then renameItems value else value) ::
      renameMembers rest

def renameItems : Json → Json
  | .arr items => .arr (renameList items)
  | other => other

def renameList : List Json → List Json
  | [] => []
  | item :: rest => renameId item :: renameList rest

end

def addFilter (scope : Scope) (clauses : Clauses) (spec : Json) : Assembly Clauses := do
  let filter ← Query.filter scope (← Query.ofJson (renameId spec))
  if filter.isEmpty then return clauses
  return { clauses with filters := clauses.filters ++ ["(" ++ filter.pattern ++ ")"] }

def bindCount (stage : String) (spec : Json) : Assembly String := do
  let some n := spec.toInt64?.filter (0 ≤ ·)
    | throw (.invalidQuery (stage ++ " must be a non-negative integer"))
  Assembly.bind { template := "?", params := [.int n] }

def addStage (scope : Scope) (clauses : Clauses) (stage : String × Json) : Assembly Clauses := do
  let (name, spec) := stage
  match name with
  | "$group" => addGroup clauses spec
  | "$project" => addProjection clauses spec
  | "$match" => addFilter scope clauses spec
  | "$limit" => return { clauses with limit := some (← bindCount name spec) }
  | "$skip" => return { clauses with offset := some (← bindCount name spec) }
  | "$sort" => return { clauses with orderBy := some (← sortKeys spec) }
  | other => throw (.unsupported ("unsupported aggregation stage: " ++ other))

def addStages (scope : Scope) (clauses : Clauses) (stages : Json) : Assembly Clauses :=
  match stages with
  | .obj members => members.foldlM (addStage scope) clauses
  | _ => throw (.invalidQuery ("bad pipeline stage: " ++ stages.text))

def listClause (keyword joiner : String) (items : List String) : String :=
  if items.isEmpty then "" else keyword ++ String.intercalate joiner items

namespace Clauses

def text (clauses : Clauses) (table : String) : String :=
  "SELECT " ++ (if clauses.columns.isEmpty then "*" else String.intercalate ", " clauses.columns) ++
    " FROM " ++ Sql.identifier table ++
    listClause " WHERE " " AND " clauses.filters ++
    listClause " GROUP BY " ", " clauses.groupBy ++
    listClause " ORDER BY " ", " clauses.orderBy.toList ++
    listClause " LIMIT " ", " clauses.limit.toList ++
    listClause " OFFSET " ", " clauses.offset.toList

end Clauses

def plan (scope : Scope) (table : String) (pipeline : List Json) : Except Error Aggregate := do
  let (clauses, params) ← Assembly.runFrom 1 (pipeline.foldlM (addStages scope) {})
  return {
    statement := { sql := clauses.text table, params }
    groupAliases := clauses.groupAliases
    countField := clauses.countField }

/-- A number of rows as a whole number, also where the engine sent text. -/
def countValue? (value : Json) : Option Int :=
  match value with
  | .num n =>
    n.toInt64?.or (some (n.toDouble.clampTo Number.minInt64 Number.maxInt64))
  | .str s => Number.int64OfText? s
  | _ => none

/-- Takes the parts of a key out of a row; a name that comes again finds nothing
left to take. -/
def takeParts : List String → Entries Json → List (String × Json) × Entries Json
  | [], row => ([], row)
  | name :: rest, row =>
    let part := (name, (Entries.find? row name).getD .null)
    let (parts, row) := takeParts rest (Entries.erase row name)
    (part :: parts, row)

def withKey (plan : Aggregate) (row : Entries Json) : Entries Json :=
  if plan.groupAliases.isEmpty then Entries.insertNew row "objectId" .null
  else
    let (parts, row) := takeParts plan.groupAliases row
    Entries.insert row "objectId" (.object parts)

def withCount (plan : Aggregate) (row : Entries Json) : Entries Json :=
  match plan.countField with
  | none => row
  | some field =>
    match (Entries.find? row field).bind countValue? with
    | some n => Entries.insert row field (.int n)
    | none => row

def results (plan : Aggregate) (rows : List (Entries Json)) : List Json :=
  rows.map fun row => .obj (plan.withCount (plan.withKey row))

end Aggregate
end DocSql
