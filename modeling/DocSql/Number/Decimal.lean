import DocSql.Number.Double

/-!
Decimal text of binary64 numbers. `shortest` finds the fewest digits that read
back to the number, the nearest of those; a `Layout` says how they are written.
`ofDecimal` reads a decimal exactly, with one rounding.
-/
namespace DocSql.Double

/-- `digits · 10 ^ exponent`, rounded once. Exponents far outside the range are
settled by the number of digits alone. -/
def ofDecimal (negative : Bool) (digits : Nat) (exponent : Int) : Double :=
  let places : Int := (Nat.toDigits 10 digits).length + exponent
  if digits = 0 then ofMagnitude negative 0
  else if 310 < places then infinity negative
  else if places < -330 then ofMagnitude negative 0
  else match exponent with
    | .ofNat e => ofRatio negative (digits * pow10 e) 1
    | .negSucc e => ofRatio negative digits (pow10 (e + 1))

/-- How decimal digits are written: the values of `point`, the number of
digits before the decimal point, that avoid an exponent, and the details of
both notations. `tieUp` settles two equally near candidates. -/
structure Layout where
  positional : Int → Bool
  pointZero : Bool
  plusSign : Bool
  tieUp : Bool

namespace Layout

def json : Layout := ⟨fun point => -5 < point && point ≤ 16, true, true, false⟩

def plain : Layout := ⟨fun _ => true, false, false, true⟩

def diagnostic : Layout := ⟨fun point => -4 < point && point ≤ 16, true, false, true⟩

end Layout

/-- The decimal exponent `p` with `10 ^ (p - 1) ≤ numerator / denominator < 10 ^ p`,
found by comparing the digit counts of the two. -/
def decimalPoint (numerator denominator : Nat) : Int :=
  let guess : Int := (Nat.toDigits 10 numerator).length - (Nat.toDigits 10 denominator).length
  let reaches : Bool := match guess with
    | .ofNat e => denominator * pow10 e ≤ numerator
    | .negSucc e => denominator ≤ numerator * pow10 (e + 1)
  if reaches then guess + 1 else guess

def nearestDecimal? (x : Double) (tieUp : Bool) (point : Int) (count : Nat) : Option (Nat × Int) :=
  let exponent := point - count
  let (numerator, denominator) := match exponent with
    | .ofNat e => (x.units, unitsPerOne * pow10 e)
    | .negSucc e => (x.units * pow10 (e + 1), unitsPerOne)
  let below := numerator / denominator
  let remainder := numerator % denominator
  let upper :=
    if 2 * remainder = denominator then tieUp || below % 2 == 1
    else denominator < 2 * remainder
  let reads (digits : Nat) : Bool := ofDecimal false digits exponent == ofMagnitude false x.magnitude
  let order := if upper then [below + 1, below] else [below, below + 1]
  (order.find? reads).map (·, exponent)

/-- The fewest digits that read back, with their exponent. Seventeen always do. -/
def shortest (x : Double) (tieUp : Bool) : Nat × Int :=
  let point := decimalPoint x.units unitsPerOne
  ((List.range' 1 17).findSome? (nearestDecimal? x tieUp point)).getD (0, 0)

def digits (x : Double) (tieUp : Bool) : List Char × Int :=
  if x.isZero then (['0'], 1)
  else
    let (value, exponent) := x.shortest tieUp
    let all := Nat.toDigits 10 value
    ((all.reverse.dropWhile (· == '0')).reverse, all.length + exponent)

def positionalText (layout : Layout) (ds : List Char) (point : Int) : List Char :=
  if point ≤ 0 then '0' :: '.' :: (List.replicate point.natAbs '0' ++ ds)
  else
    let whole := ds.take point.toNat
    let fraction := ds.drop point.toNat
    let padded := whole ++ List.replicate (point.toNat - whole.length) '0'
    if fraction.isEmpty then padded ++ (if layout.pointZero then ['.', '0'] else [])
    else padded ++ '.' :: fraction

def exponentText (layout : Layout) (ds : List Char) (point : Int) : List Char :=
  let mantissa := match ds with
    | [] => []
    | [d] => [d]
    | d :: rest => d :: '.' :: rest
  let exponent := point - 1
  let sign := if exponent < 0 then ['-'] else if layout.plusSign then ['+'] else []
  mantissa ++ 'e' :: (sign ++ Nat.toDigits 10 exponent.natAbs)

def render (layout : Layout) (x : Double) : String :=
  if x.isNaN then "NaN"
  else
    let sign := if x.isNegative then ['-'] else []
    if x.isInfinite then String.ofList (sign ++ ['i', 'n', 'f'])
    else
      let (ds, point) := x.digits layout.tieUp
      let body :=
        if x.isZero || layout.positional point then positionalText layout ds point
        else exponentText layout ds point
      String.ofList (sign ++ body)

def plainText (x : Double) : String := x.render .plain

def digitsValue (ds : List Char) : Nat :=
  ds.foldl (fun n d => 10 * n + (d.toNat - '0'.toNat)) 0

def splitSign : List Char → Bool × List Char
  | '-' :: rest => (true, rest)
  | '+' :: rest => (false, rest)
  | cs => (false, cs)

def readExponent? : List Char → Option Int
  | [] => some 0
  | mark :: rest =>
    if mark = 'e' || mark = 'E' then
      let (negative, ds) := splitSign rest
      if ds.isEmpty || !ds.all Char.isDigit then none
      else
        let n : Int := digitsValue ds
        some (if negative then -n else n)
    else none

/-- Reads a whole text as a number: an optional sign, then `inf`, `infinity`
or `nan` in any case, or digits with an optional point on either side of them
and an optional exponent. -/
def ofText? (text : String) : Option Double :=
  let (negative, body) := splitSign text.toList
  let lower := String.ofList (body.map Char.toLower)
  if lower = "inf" || lower = "infinity" then some (infinity negative)
  else if lower = "nan" then some (if negative then nan.neg else nan)
  else
    let whole := body.takeWhile Char.isDigit
    let rest := body.dropWhile Char.isDigit
    let (fraction, tail) := match rest with
      | '.' :: after => (after.takeWhile Char.isDigit, after.dropWhile Char.isDigit)
      | _ => ([], rest)
    if whole.isEmpty && fraction.isEmpty then none
    else (readExponent? tail).map fun exponent =>
      ofDecimal negative (digitsValue (whole ++ fraction)) (exponent - fraction.length)

end DocSql.Double
