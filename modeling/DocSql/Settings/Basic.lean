import DocSql.Statement.Table
import DocSql.Toml

/-!
What an installation may choose, and its TOML form.
-/
namespace DocSql

structure Settings where
  metadataTable : String := "_SCHEMA"
  /-- The language of text searches that name none. -/
  textLanguage : String := "english"
  /-- Whether the catalog's estimate answers counts of a whole class. -/
  estimateCount : Bool := true
  idWidth : Nat := 120
  logStatements : Bool := false
deriving DecidableEq, Inhabited

namespace Settings

def catalog (settings : Settings) : Catalog where
  metadataTable := settings.metadataTable
  idWidth := settings.idWidth

def toTable (settings : Settings) : Toml.Table :=
  [("schema_table", .text settings.metadataTable),
   ("text_search_language", .text settings.textLanguage),
   ("estimate_count", .bool settings.estimateCount),
   ("join_id_width", .int settings.idWidth),
   ("log_statements", .bool settings.logStatements)]

def toToml (settings : Settings) : String := Toml.render settings.toTable

def setting? {α : Type} (table : Toml.Table) (key : String) (default : α)
    (read? : Toml.Value → Option α) : Option α :=
  match Toml.find? table key with
  | none => some default
  | some value => read? value

def text? : Toml.Value → Option String
  | .text s => some s
  | _ => none

def bool? : Toml.Value → Option Bool
  | .bool b => some b
  | _ => none

def width? : Toml.Value → Option Nat
  | .int n => if n < 0 then none else some n.toNat
  | _ => none

def ofTable? (table : Toml.Table) : Option Settings := do
  let defaults : Settings := {}
  return {
    metadataTable := ← setting? table "schema_table" defaults.metadataTable text?
    textLanguage := ← setting? table "text_search_language" defaults.textLanguage text?
    estimateCount := ← setting? table "estimate_count" defaults.estimateCount bool?
    idWidth := ← setting? table "join_id_width" defaults.idWidth width?
    logStatements := ← setting? table "log_statements" defaults.logStatements bool? }

def ofToml? (text : String) : Option Settings := (Toml.ofText? text).bind ofTable?

end Settings
end DocSql
