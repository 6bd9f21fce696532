import DocSql.Json.Basic

/-!
Reading JSON text. A text is one value with blanks around it; nesting beyond
`maxDepth` containers is refused, a repeated member keeps its last value, and
a number with a point, an exponent or too many digits is read as binary64.
-/
namespace DocSql.Json

def maxDepth : Nat := 127

namespace Reader

def isBlank (c : Char) : Bool := c == ' ' || c == '\n' || c == '\t' || c == '\r'

def skipBlanks (cs : List Char) : List Char := cs.dropWhile isBlank

def hex4? : List Char → Option (Nat × List Char)
  | a :: b :: c :: d :: rest => do
    let digit (x : Char) : Option Nat :=
      if x.isDigit then some (x.toNat - '0'.toNat)
      else if 'a' ≤ x ∧ x ≤ 'f' then some (x.toNat - 'a'.toNat + 10)
      else if 'A' ≤ x ∧ x ≤ 'F' then some (x.toNat - 'A'.toNat + 10)
      else none
    let value := (← digit a) * 4096 + (← digit b) * 256 + (← digit c) * 16 + (← digit d)
    some (value, rest)
  | _ => none

/-- The character of a unicode escape after its `\u`; a high surrogate needs
its low one behind it, and neither stands alone. -/
def unicodeEscape? (cs : List Char) : Option (Char × List Char) := do
  let (unit, rest) ← hex4? cs
  if 0xDC00 ≤ unit ∧ unit ≤ 0xDFFF then none
  else if 0xD800 ≤ unit ∧ unit ≤ 0xDBFF then
    match rest with
    | '\\' :: 'u' :: more =>
      let (low, rest) ← hex4? more
      if 0xDC00 ≤ low ∧ low ≤ 0xDFFF then
        some (Char.ofNat (0x10000 + (unit - 0xD800) * 1024 + (low - 0xDC00)), rest)
      else none
    | _ => none
  else some (Char.ofNat unit, rest)

def simpleEscape? : Char → Option Char
  | '"' => some '"'
  | '\\' => some '\\'
  | '/' => some '/'
  | 'b' => some '\x08'
  | 'f' => some '\x0c'
  | 'n' => some '\n'
  | 'r' => some '\r'
  | 't' => some '\t'
  | _ => none

/-- The characters of a string up to its closing quote. Each step consumes
input, so the length of the text bounds the number of steps. -/
def stringBody? : Nat → List Char → Option (List Char × List Char)
  | 0, _ => none
  | _ + 1, [] => none
  | steps + 1, c :: rest =>
    if c = '"' then some ([], rest)
    else if c = '\\' then
      match rest with
      | [] => none
      | 'u' :: more => do
        let (read, rest) ← unicodeEscape? more
        let (tail, rest) ← stringBody? steps rest
        some (read :: tail, rest)
      | mark :: more => do
        let read ← simpleEscape? mark
        let (tail, rest) ← stringBody? steps more
        some (read :: tail, rest)
    else if c.toNat < 32 then none
    else do
      let (tail, rest) ← stringBody? steps rest
      some (c :: tail, rest)

def string? (cs : List Char) : Option (String × List Char) :=
  (stringBody? (cs.length + 1) cs).map fun (body, rest) => (String.ofList body, rest)

/-- Digits are taken into a significand as long as it fits 64 bits; the result
is the significand, the count of digits taken, and the digits left over. -/
def takeDigits : Nat → Nat → List Char → Nat × Nat × List Char
  | significand, taken, [] => (significand, taken, [])
  | significand, taken, d :: rest =>
    let next := significand * 10 + (d.toNat - '0'.toNat)
    if next < pow2 64 then takeDigits next (taken + 1) rest
    else (significand, taken, d :: rest)

def scaleDown (x : Double) (exponent : Nat) : Double :=
  if h : exponent ≤ 308 then x / .ofNat (pow10 exponent)
  else if x.isZero then x
  else scaleDown (x / .ofNat (pow10 308)) (exponent - 308)
termination_by exponent
decreasing_by omega

def scale? (significand : Nat) (exponent : Int) : Option Double :=
  let x := Double.ofNat significand
  match exponent with
  | .ofNat e =>
    if e ≤ 308 then
      let y := x * .ofNat (pow10 e)
      if y.isInfinite then none else some y
    else if x.isZero then some x else none
  | .negSucc e => some (scaleDown x (e + 1))

def exponent? (cs : List Char) : Option (Int × List Char) :=
  match cs with
  | [] => some (0, [])
  | mark :: rest =>
    if mark = 'e' ∨ mark = 'E' then
      let (negative, rest) := match rest with
        | '-' :: more => (true, more)
        | '+' :: more => (false, more)
        | more => (false, more)
      let ds := rest.takeWhile Char.isDigit
      if ds.isEmpty then none
      else
        let n : Int := Double.digitsValue ds
        some (if negative then -n else n, rest.dropWhile Char.isDigit)
    else some (0, cs)

/-- Exponents beyond 32 bits leave only zero or a refusal, whatever the digits. -/
def float? (negative : Bool) (significand : Nat) (shift exponent : Int) : Option Double :=
  let signed (x : Double) := if negative then x.neg else x
  if pow2 31 ≤ exponent.natAbs then
    if significand ≠ 0 ∧ 0 < exponent then none else some (signed .zero)
  else (scale? significand (shift + exponent)).map signed

def number? (negative : Bool) (cs : List Char) : Option (Number × List Char) := do
  let whole := cs.takeWhile Char.isDigit
  let rest := cs.dropWhile Char.isDigit
  if whole.isEmpty ∨ (whole.head? = some '0' ∧ 1 < whole.length) then none
  else
    let (significand, _, dropped) := takeDigits 0 0 whole
    let marked := match rest with
      | c :: _ => c == '.' || c == 'e' || c == 'E'
      | [] => false
    if !marked && dropped.isEmpty then
      if !negative then some (.int significand, rest)
      else if significand = 0 ∨ pow2 63 < significand then
        some (.float (Double.ofNat significand).neg, rest)
      else some (.int (-(significand : Int)), rest)
    else
      let (fraction, rest) ← match rest with
        | '.' :: more =>
          let ds := more.takeWhile Char.isDigit
          if ds.isEmpty then none else some (ds, more.dropWhile Char.isDigit)
        | _ => some ([], rest)
      let (significand, taken, _) := takeDigits significand 0 fraction
      let (exponent, rest) ← exponent? rest
      let x ← float? negative significand ((dropped.length : Int) - taken) exponent
      some (.float x, rest)

def sequence? {α : Type} (item? : List Char → Option (α × List Char)) (close : Char) :
    Nat → List Char → Option (List α × List Char)
  | 0, _ => none
  | steps + 1, cs => do
    let (item, rest) ← item? cs
    match skipBlanks rest with
    | [] => none
    | c :: rest =>
      if c = close then some ([item], rest)
      else if c = ',' then
        let (items, rest) ← sequence? item? close steps rest
        some (item :: items, rest)
      else none

def literal? (word : String) (value : Json) (cs : List Char) : Option (Json × List Char) :=
  if word.toList.isPrefixOf cs then some (value, cs.drop word.length) else none

def member? (value? : List Char → Option (Json × List Char)) (cs : List Char) :
    Option ((String × Json) × List Char) :=
  match skipBlanks cs with
  | '"' :: rest => do
    let (name, rest) ← string? rest
    match skipBlanks rest with
    | ':' :: rest =>
      let (value, rest) ← value? rest
      some ((name, value), rest)
    | _ => none
  | _ => none

def value? : Nat → List Char → Option (Json × List Char)
  | depth, cs =>
    match skipBlanks cs with
    | [] => none
    | '"' :: rest => (string? rest).map fun (s, rest) => (.str s, rest)
    | '-' :: rest => (number? true rest).map fun (n, rest) => (.num n, rest)
    | '[' :: rest =>
      match depth with
      | 0 => none
      | depth + 1 =>
        match skipBlanks rest with
        | ']' :: rest => some (.arr [], rest)
        | rest => (sequence? (value? depth) ']' rest.length rest).map
            fun (items, rest) => (.arr items, rest)
    | '\x7b' :: rest =>
      match depth with
      | 0 => none
      | depth + 1 =>
        match skipBlanks rest with
        | '\x7d' :: rest => some (.obj [], rest)
        | rest => (sequence? (member? (value? depth)) '\x7d' rest.length rest).map
            fun (members, rest) => (.obj members, rest)
    | c :: rest =>
      if c.isDigit then (number? false (c :: rest)).map fun (n, rest) => (.num n, rest)
      else if c = 't' then literal? "true" (.bool true) (c :: rest)
      else if c = 'f' then literal? "false" (.bool false) (c :: rest)
      else literal? "null" .null (c :: rest)

end Reader

/-- Reads a text that is exactly one JSON value, the members of its objects in
the order of the text, repeated ones included. -/
def written? (text : String) : Option Json := do
  let (value, rest) ← Reader.value? maxDepth text.toList
  if (Reader.skipBlanks rest).isEmpty then some value else none

def ofText? (text : String) : Option Json := (written? text).map sorted

end DocSql.Json
