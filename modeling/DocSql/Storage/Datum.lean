import DocSql.Geo
import DocSql.Text.Hidden
import DocSql.Timestamp.Text

/-!
Values as statements bind them and as columns of result rows return them.
-/
namespace DocSql

inductive Datum
  | null
  | bool (value : Bool)
  | int (value : Int)
  | float (value : Double)
  | text (value : String)
  | textArray (items : List String)
  | json (value : Json)
  | timestamp (value : Timestamp)
  | point (value : Point)
  | polygon (ring : Ring)
deriving Inhabited

abbrev Row := Entries Datum

namespace Datum

/-- Whole numbers of 64 bits stay whole, all others become binary64. -/
def ofNumber (n : Number) : Datum :=
  match n.toInt64? with
  | some i => int i
  | none => float n.toDouble

def ofJson : Json → Datum
  | .null => null
  | .bool b => bool b
  | .num n => ofNumber n
  | .str s => text s
  | other => json other

def isNull : Datum → Bool
  | null => true
  | _ => false

def toText? : Datum → Option String
  | text s => some s
  | _ => none

def toDouble? : Datum → Option Double
  | int n => some (.ofInt n)
  | float x => some x
  | text s => Double.ofText? s
  | _ => none

def toInt64? : Datum → Option Int
  | int n => some n
  | float x => if x.isIntegral then some (x.clampTo Number.minInt64 Number.maxInt64) else none
  | text s => Number.int64OfText? s
  | _ => none

/-- Integral values below 2^53 come back as whole numbers, so that `15` written
to a column of binary64 numbers reads as `15` again. -/
def jsonNumber (x : Double) : Json :=
  if x.isIntegral && x.units < pow2 53 * Double.unitsPerOne then
    .int (x.clampTo Number.minInt64 Number.maxInt64)
  else .ofDouble x

def pointJson (p : Point) : Json := .object [("x", .ofDouble p.x), ("y", .ofDouble p.y)]

def toJson : Datum → Json
  | null => .null
  | bool b => .bool b
  | int n => .int n
  | float x => .ofDouble x
  | text s => .str s
  | textArray items => .arr (items.map .str)
  | json value => value
  | timestamp t => .str t.briefText
  | point p => pointJson p
  | polygon ring => .arr (ring.map pointJson)

def diagnosticChar (c : Char) : List Char :=
  match c with
  | '"' => ['\\', '"']
  | '\\' => ['\\', '\\']
  | '\n' => ['\\', 'n']
  | '\r' => ['\\', 'r']
  | '\t' => ['\\', 't']
  | '\x00' => ['\\', '0']
  | c =>
    if Text.isHidden c then
      '\\' :: 'u' :: '\x7b' :: (Nat.toDigits 16 c.toNat ++ ['\x7d'])
    else [c]

def diagnosticText (s : String) : String :=
  "\"" ++ String.ofList (s.toList.flatMap diagnosticChar) ++ "\""

def diagnosticPoint (p : Point) : String :=
  "Point \x7b x: " ++ p.x.render .diagnostic ++ ", y: " ++ p.y.render .diagnostic ++ " \x7d"

def diagnostic : Datum → String
  | null => "Null"
  | bool b => "Bool(" ++ (if b then "true" else "false") ++ ")"
  | int n => "Int(" ++ toString n ++ ")"
  | float x => "Float(" ++ x.render .diagnostic ++ ")"
  | text s => "Text(" ++ diagnosticText s ++ ")"
  | textArray items =>
    "TextArray([" ++ String.intercalate ", " (items.map diagnosticText) ++ "])"
  | json value => "Json(" ++ value.text ++ ")"
  | timestamp t => "Timestamp(" ++ t.briefText ++ ")"
  | point p => "Point(" ++ diagnosticPoint p ++ ")"
  | polygon ring => "Polygon([" ++ String.intercalate ", " (ring.map diagnosticPoint) ++ "])"

end Datum
end DocSql
