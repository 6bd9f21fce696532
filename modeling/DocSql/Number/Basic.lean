import DocSql.Number.Decimal

/-!
Numbers of a JSON text: whole numbers are kept apart from binary64 numbers. A
whole number that has to fit a column is one of 64 bits.
-/
namespace DocSql

inductive Number
  | int (value : Int)
  | float (value : Double)
deriving DecidableEq, Inhabited

namespace Number

def minInt64 : Int := -9223372036854775808
def maxInt64 : Int := 9223372036854775807

def fitsInt64 (n : Int) : Bool := minInt64 ≤ n && n ≤ maxInt64

def int64OfText? (text : String) : Option Int :=
  let (negative, ds) := Double.splitSign text.toList
  if ds.isEmpty || !ds.all Char.isDigit then none
  else
    let n : Int := Double.digitsValue ds
    let n := if negative then -n else n
    if fitsInt64 n then some n else none

/-- The value as a signed 64-bit integer; a binary64 number never is one. -/
def toInt64? : Number → Option Int
  | int n => if fitsInt64 n then some n else none
  | float _ => none

def toDouble : Number → Double
  | int n => .ofInt n
  | float x => x

def text : Number → String
  | int n => toString n
  | float x => x.render .json

end Number
end DocSql
