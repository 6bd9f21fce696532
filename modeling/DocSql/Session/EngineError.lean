import DocSql.Error
import DocSql.Text.Search

/-!
Failures that the engine reports. A failure may be the consequence of another;
what it means to a client is decided by the first of them, its root.
-/
namespace DocSql

structure Fault where
  message : String
  code : Option String := none
  constraint : Option String := none
  detail : Option String := none
deriving DecidableEq, Inhabited

/-- A fault with the faults that led to it, the nearest cause first. -/
structure EngineError where
  fault : Fault
  causes : List Fault := []
deriving DecidableEq, Inhabited

namespace SqlState

def undefinedTable : String := "42P01"
def duplicateTable : String := "42P07"
def duplicateColumn : String := "42701"
def undefinedColumn : String := "42703"
def duplicateObject : String := "42710"
def uniqueViolation : String := "23505"
def inFailedTransaction : String := "25P02"

end SqlState

namespace EngineError

def root (e : EngineError) : Fault := e.causes.getLast?.getD e.fault

def hasCode (e : EngineError) (code : String) : Bool := e.root.code == some code

def isSchemaRace (e : EngineError) : Bool :=
  e.hasCode SqlState.duplicateTable || e.hasCode SqlState.duplicateColumn ||
    e.hasCode SqlState.duplicateObject

def isMissingTable (e : EngineError) : Bool := e.hasCode SqlState.undefinedTable

def isMissingColumn (e : EngineError) : Bool := e.hasCode SqlState.undefinedColumn

def isUniqueViolation (e : EngineError) : Bool := e.hasCode SqlState.uniqueViolation

/-- The field in the name of a unique constraint: the letters behind the first
`unique_` that has letters behind it. -/
def fieldOfConstraint : List Char → Option (List Char)
  | [] => none
  | c :: rest =>
    let mark := "unique_".toList
    let field := ((c :: rest).drop mark.length).takeWhile Char.isAlpha
    if mark.isPrefixOf (c :: rest) && !field.isEmpty then some field else fieldOfConstraint rest

def duplicatedField (constraint : String) : Option String :=
  (fieldOfConstraint constraint.toList).map String.ofList

def toError (e : EngineError) : Error :=
  if e.isUniqueViolation then .duplicateValue (e.root.constraint.bind duplicatedField)
  else if e.isSchemaRace then .schemaConflict e.root.message
  else .internal e.root.message

end EngineError
end DocSql
