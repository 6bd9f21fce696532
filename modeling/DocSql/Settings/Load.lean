import DocSql.Environment
import DocSql.Settings.Basic

/-!
The settings of an installation: a settings file, overridden by environment
variables, some of which may come from an environment file beside it.
-/
namespace DocSql.Settings

def fileName : String := "pgdoc.toml"
def envFileName : String := ".env"

def textVariable? (environment : Environment) (name : String) : Option String :=
  (environment.get? name).filter (· ≠ "")

def boolVariable? (environment : Environment) (name : String) : Option Bool :=
  match environment.get? name with
  | some "true" => some true
  | some "false" => some false
  | _ => none

def tableVariable : String := "PGDOC_SCHEMA_TABLE"
def languageVariable : String := "PGDOC_TEXT_LANGUAGE"
def estimateVariable : String := "PGDOC_ESTIMATE_COUNT"
def logVariable : String := "PGDOC_LOG_STATEMENTS"

def variableNames : List String :=
  [tableVariable, languageVariable, estimateVariable, logVariable]

/-- Variables win over the file; values that make no sense are ignored. -/
def override (settings : Settings) (environment : Environment) : Settings :=
  { settings with
    metadataTable := (textVariable? environment tableVariable).getD settings.metadataTable
    textLanguage := (textVariable? environment languageVariable).getD settings.textLanguage
    estimateCount := (boolVariable? environment estimateVariable).getD settings.estimateCount
    logStatements := (boolVariable? environment logVariable).getD settings.logStatements }

def load? (environment : Environment) (envFile file : Option String) : Option Settings := do
  let environment := envFile.elim environment environment.load
  let settings ← file.elim (some {}) ofToml?
  return settings.override environment

end DocSql.Settings
