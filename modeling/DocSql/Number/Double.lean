import DocSql.Number.Power

/-!
Binary64 numbers as bit patterns. Every finite magnitude is a whole number of
units of 2^-1074, so order, products and quotients are exact integer facts
followed by one rounding, `ofRatio`, to the nearest pattern with ties to even.
-/
namespace DocSql

structure Double where
  bits : UInt64
deriving DecidableEq, Inhabited

namespace Double

def signBit : Nat := pow2 63

/-- The pattern of positive infinity; larger magnitudes are not numbers. -/
def infinityBits : Nat := 2047 * pow2 52

def ofMagnitude (negative : Bool) (magnitude : Nat) : Double :=
  ⟨UInt64.ofNat (if negative then signBit + magnitude else magnitude)⟩

def magnitude (x : Double) : Nat := x.bits.toNat % signBit

def isNegative (x : Double) : Bool := signBit ≤ x.bits.toNat

def isNaN (x : Double) : Bool := infinityBits < x.magnitude

def isInfinite (x : Double) : Bool := x.magnitude == infinityBits

def isFinite (x : Double) : Bool := x.magnitude < infinityBits

def zero : Double := ofMagnitude false 0

def negZero : Double := ofMagnitude true 0

def infinity (negative : Bool) : Double := ofMagnitude negative infinityBits

def nan : Double := ofMagnitude false (infinityBits + pow2 51)

def units (x : Double) : Nat :=
  let exponent := x.magnitude / pow2 52
  let fraction := x.magnitude % pow2 52
  if exponent = 0 then fraction else (pow2 52 + fraction) * pow2 (exponent - 1)

def unitsPerOne : Nat := pow2 1074

def signedUnits (x : Double) : Int :=
  if x.isNegative then -(x.units : Int) else x.units

/-- The nearest number to `numerator / denominator`, ties to the even pattern.
Shifting the quotient down to 53 bits leaves a pattern whose exponent field is
the shift, and a carry out of the fraction is already the next pattern. -/
def ofRatio (negative : Bool) (numerator denominator : Nat) : Double :=
  let scaled := numerator * unitsPerOne
  let shift := (scaled / denominator).log2 - 52
  let step := denominator * pow2 shift
  let quotient := scaled / step
  let remainder := scaled % step
  let rounded :=
    if 2 * remainder < step then quotient
    else if step < 2 * remainder then quotient + 1
    else quotient + quotient % 2
  ofMagnitude negative (min infinityBits (shift * pow2 52 + rounded))

def ofNat (n : Nat) : Double := ofRatio false n 1

def ofInt (n : Int) : Double := ofRatio (n < 0) n.natAbs 1

def neg (x : Double) : Double := ofMagnitude (!x.isNegative) x.magnitude

def isZero (x : Double) : Bool := x.magnitude == 0

/-- Products and quotients are those of binary64 with the one quiet NaN. -/
def mul (x y : Double) : Double :=
  let negative := x.isNegative != y.isNegative
  if x.isNaN || y.isNaN then nan
  else if x.isInfinite || y.isInfinite then
    if x.isZero || y.isZero then nan else infinity negative
  else ofRatio negative (x.units * y.units) (unitsPerOne * unitsPerOne)

def div (x y : Double) : Double :=
  let negative := x.isNegative != y.isNegative
  if x.isNaN || y.isNaN then nan
  else if x.isInfinite then if y.isInfinite then nan else infinity negative
  else if y.isInfinite then ofMagnitude negative 0
  else if y.isZero then if x.isZero then nan else infinity negative
  else ofRatio negative x.units y.units

instance : Mul Double := ⟨mul⟩
instance : Div Double := ⟨div⟩

def same (x y : Double) : Bool :=
  !x.isNaN && !y.isNaN && x.signedUnits == y.signedUnits

def le (x y : Double) : Bool :=
  !x.isNaN && !y.isNaN && x.signedUnits ≤ y.signedUnits

def lt (x y : Double) : Bool :=
  !x.isNaN && !y.isNaN && x.signedUnits < y.signedUnits

def isIntegral (x : Double) : Bool := x.isFinite && x.units % unitsPerOne == 0

def toInt? (x : Double) : Option Int :=
  if x.isFinite then
    let whole : Int := (x.units / unitsPerOne : Nat)
    some (if x.isNegative then -whole else whole)
  else none

/-- Rounded toward zero and clamped to a range; NaN counts as zero. -/
def clampTo (low high : Int) (x : Double) : Int :=
  match x.toInt? with
  | some n => max low (min high n)
  | none => if x.isNaN then 0 else if x.isNegative then low else high

end Double
end DocSql
