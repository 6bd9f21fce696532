import DocSql.CommandLine.Grammar

/-!
What a command line asks for. Each command compiles one kind of request on a
class whose schema stands in a file; JSON arguments stand on the command line
or, as `@path`, in a file.
-/
namespace DocSql.CommandLine

inductive Command
  | query
  | update
  | definition
  | aggregate
deriving DecidableEq, Inhabited

namespace Command

def all : List Command := [query, update, definition, aggregate]

def schemaOption (about : String) : Parameter :=
  { name := "schema", short := some 's', kind := .path, required := true, about }

def grammar : Command → Grammar
  | query =>
    { name := "query", about := "Compile a find"
      operands := [
        { name := "query", about := "Query document, inline or @file", default := some "\x7b\x7d" }]
      options := [
        schemaOption "Schema JSON file",
        { name := "keys", about := "Projected keys, comma separated" },
        { name := "sort", about := "Sort document such as \x7b\"score\": -1\x7d" },
        { name := "limit", kind := .count },
        { name := "skip", kind := .count },
        { name := "case-insensitive", kind := .flag
          about := "Compare strings case insensitively" },
        { name := "explain", kind := .flag, about := "Wrap the statement in EXPLAIN ANALYZE" }] }
  | update =>
    { name := "update", about := "Compile an update by query"
      operands := [
        { name := "query", required := true, about := "Query document, inline or @file" },
        { name := "update", required := true, about := "Update document, inline or @file" }]
      options := [schemaOption ""] }
  | definition =>
    { name := "ddl", about := "Print the DDL creating a class", options := [schemaOption ""] }
  | aggregate =>
    { name := "aggregate", about := "Compile an aggregation pipeline"
      operands := [
        { name := "pipeline", required := true, about := "Pipeline array, inline or @file" }]
      options := [schemaOption ""] }

def ofName? (name : String) : Option Command := all.find? (·.grammar.name == name)

end Command

def helpName : String := "help"

def program : Grammar where
  name := "pgdoc"
  about := "Compile document queries into PostgreSQL statements"
  options := [
    { name := "config-dir", kind := .path, default := some "."
      about := "Directory holding pgdoc.toml and .env" }]

def commandNames : List String := Command.all.map (·.grammar.name) ++ [helpName]

structure Invocation where
  settingsDir : String
  command : Command
  values : Values
deriving Inhabited

inductive Topic
  | program
  | command (command : Command)
  /-- The command that prints help. -/
  | help
deriving DecidableEq, Inhabited

inductive Request
  | run (invocation : Invocation)
  | help (topic : Topic)
  /-- The arguments fit no command. -/
  | mistake
deriving Inhabited

def topic? : List String → Option Topic
  | [] => some .program
  | [name] =>
    if name = helpName then some .help else (Command.ofName? name).map .command
  | _ => none

def Stop.request (topic : Topic) : Stop → Request
  | .help => .help topic
  | .mistake => .mistake

/-- The request of a command whose arguments follow its name. The program's
own last option is checked behind them. -/
def commandRequest (progress : Progress) (command : Command) (args : List String) : Request :=
  match command.grammar.read args with
  | .error stop => stop.request (.command command)
  | .ok values =>
    match program.finish progress with
    | .error stop => stop.request .program
    | .ok own => .run { settingsDir := (own.get? "config-dir").getD ".", command, values }

def request (args : List String) : Request :=
  match program.scan commandNames program.start args with
  | .error stop => stop.request .program
  | .ok (progress, name :: args) =>
    if name = helpName then (topic? args).elim .mistake .help
    else match Command.ofName? name with
      | some command => commandRequest progress command args
      | none => .mistake
  | .ok (_, []) => .mistake

end DocSql.CommandLine
