import DocSql.Entries
import DocSql.Number.Basic

/-!
JSON values. Whole numbers and binary64 numbers are different values, as their
texts are; an object lists its members by increasing name.
-/
namespace DocSql

inductive Json
  | null
  | bool (value : Bool)
  | num (value : Number)
  | str (value : String)
  | arr (items : List Json)
  | obj (members : List (String × Json))
deriving Inhabited

namespace Json

abbrev int (n : Int) : Json := num (.int n)
abbrev float (x : Double) : Json := num (.float x)

/-- Infinities and NaN have no JSON number. -/
def ofDouble (x : Double) : Json := if x.isFinite then float x else null

def isNull : Json → Bool
  | null => true
  | _ => false

def get? (name : String) : Json → Option Json
  | obj members => Entries.find? members name
  | _ => none

def has (name : String) (value : Json) : Bool := (value.get? name).isSome

def str? : Json → Option String
  | str s => some s
  | _ => none

def arr? : Json → Option (List Json)
  | arr items => some items
  | _ => none

def obj? : Json → Option (Entries Json)
  | obj members => some members
  | _ => none

def num? : Json → Option Number
  | num n => some n
  | _ => none

def toInt64? (value : Json) : Option Int := value.num?.bind Number.toInt64?

def toDouble? (value : Json) : Option Double := value.num?.map Number.toDouble

def getStr? (name : String) (value : Json) : Option String := (value.get? name).bind str?

def object (members : List (String × Json)) : Json := obj (Entries.ofList members)

mutual

/-- A value whose objects, at every depth, list each name once, in order and
with its last value. -/
def sorted : Json → Json
  | arr items => arr (sortedItems items)
  | obj members => object (sortedMembers members)
  | other => other

def sortedItems : List Json → List Json
  | [] => []
  | item :: rest => sorted item :: sortedItems rest

def sortedMembers : List (String × Json) → List (String × Json)
  | [] => []
  | (name, value) :: rest => (name, sorted value) :: sortedMembers rest

end

def typeTag? (value : Json) : Option String := value.getStr? "__type"

end Json
end DocSql
