import DocSql.Query.Filter
import DocSql.Session.Transaction
import DocSql.Settings.Basic

/-!
A document store over a relational engine: its settings, and how it reads the
columns of the rows it keeps its own records in.
-/
namespace DocSql

structure Store where
  settings : Settings := {}
  /-- The instant that relative times count from. -/
  now : Timestamp
deriving Inhabited

namespace Store

def catalog (store : Store) : Catalog := store.settings.catalog

def scope (store : Store) (className : String) (schema : Schema) (foldCase : Bool) : Scope :=
  { Scope.ofSchema (schema.named className) store.now with
    foldCase, language := store.settings.textLanguage }

end Store

namespace Row

/-- A JSON column, whether the engine sent it as JSON or as text. -/
def jsonColumn (row : Row) (column : String) : Except Error (Option Json) :=
  match Entries.find? row column with
  | some (.json value) => .ok (some value)
  | some (.text s) => some <$> Datum.readJson s
  | some .null | none => .ok none
  | some other => .error (.internal
      ("column '" ++ column ++ "' holds " ++ other.diagnostic ++ ", expected json"))

def textColumn? (row : Row) (column : String) : Option String :=
  (Entries.find? row column).bind Datum.toText?

def intColumn? (row : Row) (column : String) : Option Int :=
  (Entries.find? row column).bind Datum.toInt64?

end Row

namespace Operation

def queryOr {α : Type} (statement : Statement) (expected : EngineError → Bool) (standIn : α)
    (next : List Row → Operation α) : Operation α := do
  match ← Session.request (.query statement) with
  | .ok rows => next rows
  | .error e => if expected e then return standIn else throw e.toError

end Operation
end DocSql
