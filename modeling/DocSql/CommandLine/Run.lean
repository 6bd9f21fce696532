import DocSql.CommandLine.Help
import DocSql.Schema.Text
import DocSql.Settings.Load
import DocSql.Statement.Aggregate
import DocSql.Statement.ClassDefinition
import DocSql.Statement.Find
import DocSql.Statement.Modify

/-!
Running a command line. `Invocation.paths` names every file that a command may
read and `Invocation.variableNames` every variable; with their contents the result
is a pure function, and the statements are printed only if all of them compile.
-/
namespace DocSql.CommandLine

inductive FileFault
  | missing
  | unreadable
deriving DecidableEq, Inhabited

structure Surroundings where
  file : String → Except FileFault String
  environment : Environment
  now : Timestamp

inductive Failure
  | settings
  | unreadable (path : String)
  | schema (path : String)
  | unnamedClass (path : String)
  | json (text : String)
  | compile (error : Error)
deriving DecidableEq, Inhabited

def Failure.message : Failure → String
  | settings => "Invalid settings"
  | unreadable path => "Failed to read " ++ path
  | schema path => "Invalid schema in " ++ path
  | unnamedClass path => "Schema " ++ path ++ " has no className"
  | json _ => "Invalid JSON"
  | compile error => error.message

namespace Surroundings

def read (around : Surroundings) (path : String) : Except Failure String :=
  (around.file path).mapError fun _ => .unreadable path

def readIfPresent (around : Surroundings) (path : String) : Except Failure (Option String) :=
  match around.file path with
  | .ok text => .ok (some text)
  | .error .missing => .ok none
  | .error .unreadable => .error (.unreadable path)

end Surroundings

def inDirectory (directory name : String) : String :=
  if directory.toList.getLast? = some '/' then directory ++ name else directory ++ "/" ++ name

def argumentPath? (arg : String) : Option String :=
  match arg.toList with
  | '@' :: path => some (String.ofList path)
  | _ => none

namespace Invocation

def value (invocation : Invocation) (name : String) : String :=
  (invocation.values.get? name).getD ""

def settingsPath (invocation : Invocation) : String :=
  inDirectory invocation.settingsDir Settings.fileName

def envPath (invocation : Invocation) : String :=
  inDirectory invocation.settingsDir Settings.envFileName

def jsonArguments (invocation : Invocation) : List String :=
  ["query", "sort", "update", "pipeline"].filterMap invocation.values.get?

def paths (invocation : Invocation) : List String :=
  [invocation.envPath, invocation.settingsPath, invocation.value "schema"] ++
    invocation.jsonArguments.filterMap argumentPath?

def variableNames (envFile : Option String) : List String :=
  Settings.variableNames ++
    (envFile.elim [] EnvFile.assignments).flatMap EnvFile.Assignment.variableNames

/-- An environment file that cannot be read counts as missing. -/
def settings (invocation : Invocation) (around : Surroundings) : Except Failure Settings := do
  let envFile := (around.file invocation.envPath).toOption
  let file ← around.readIfPresent invocation.settingsPath
  match Settings.load? around.environment envFile file with
  | some settings => return settings
  | none => throw .settings

def schema (invocation : Invocation) (around : Surroundings) : Except Failure Schema := do
  let path := invocation.value "schema"
  match Schema.ofText? (← around.read path) with
  | none => throw (.schema path)
  | some schema => if schema.className.isEmpty then throw (.unnamedClass path) else return schema

def json (around : Surroundings) (arg : String) : Except Failure Json := do
  let text ← match argumentPath? arg with
    | some path => around.read path
    | none => pure arg
  match Json.ofText? text with
  | some value => return value
  | none => throw (.json text)

def keys (list : String) : List String :=
  let items := (list.toList.splitOn ',').map Text.trim
  (items.filter (!·.isEmpty)).map String.ofList

/-- The sort keys of a sort document; any other document sorts nothing. -/
def sort : Json → List (String × Find.Direction)
  | .obj members => members.map fun (field, direction) => (field, .ofJson direction)
  | _ => []

def findOptions (invocation : Invocation) (around : Surroundings) :
    Except Failure Find.Options := do
  let sortDocument ← (invocation.values.get? "sort").mapM (json around)
  return {
    keys := (invocation.values.get? "keys").map keys
    sort := sortDocument.elim [] sort
    limit := (invocation.values.get? "limit").bind count?
    skip := (invocation.values.get? "skip").bind count?
    explain := invocation.values.has "explain" }

def stages : Json → List Json
  | .arr items => items
  | stage => [stage]

def compile {α : Type} (result : Except Error α) : Except Failure α := result.mapError .compile

def statementsOf (invocation : Invocation) (around : Surroundings) (settings : Settings)
    (schema : Schema) : Except Failure (List Statement) := do
  let scope := { Scope.ofSchema schema around.now with language := settings.textLanguage }
  match invocation.command with
  | .query =>
    let options ← invocation.findOptions around
    let query ← json around ((invocation.values.get? "query").getD "\x7b\x7d")
    let scope := { scope with foldCase := invocation.values.has "case-insensitive" }
    return [← compile (Find.statement scope query options)]
  | .update =>
    let query ← json around (invocation.value "query")
    let update ← json around (invocation.value "update")
    return [← compile (Update.statement scope query update)]
  | .definition => compile (settings.catalog.classDefinition schema)
  | .aggregate =>
    let pipeline ← json around (invocation.value "pipeline")
    return [(← compile (Aggregate.plan scope schema.className (stages pipeline))).statement]

def statements (invocation : Invocation) (around : Surroundings) :
    Except Failure (List Statement) := do
  let settings ← invocation.settings around
  let schema ← invocation.schema around
  invocation.statementsOf around settings schema

end Invocation

def printed (statement : Statement) : String :=
  statement.sql ++ "\n" ++
    if statement.params.isEmpty then ""
    else "  params: " ++ (Json.arr (statement.params.map Datum.toJson)).text ++ "\n"

structure Report where
  code : Nat
  output : String := ""
  diagnostic : String := ""
deriving DecidableEq, Inhabited

def Invocation.report (invocation : Invocation) (around : Surroundings) : Report :=
  match invocation.statements around with
  | .ok statements => { code := 0, output := String.join (statements.map printed) }
  | .error failure => { code := 1, diagnostic := "Error: " ++ failure.message ++ "\n" }

def Topic.report (topic : Topic) : Report := { code := 0, output := topic.text }

def mistakeReport : Report := { code := 2, diagnostic := Topic.program.text }

end DocSql.CommandLine
