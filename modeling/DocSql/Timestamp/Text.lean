import DocSql.Number.Power
import DocSql.Text.Blank
import DocSql.Timestamp.Basic

/-!
Written forms of instants. `ofText?` reads the internet date-time profile
(RFC 3339) or, failing that, a looser form without a zone; `iso` writes
milliseconds and a `Z`, cutting off what is finer.
-/
namespace DocSql.Timestamp

def padded (width n : Nat) : String :=
  let ds := Nat.toDigits 10 n
  String.ofList (List.replicate (width - ds.length) '0' ++ ds)

/-- Four digits; outside 0..9999 the sign is written too. -/
def yearText (year : Int) : String :=
  (if year < 0 then "-" else if 9999 < year then "+" else "") ++ padded 4 year.natAbs

def secondsText (t : Timestamp) : String :=
  let (year, month, day) := civilFromDays t.day
  let rest := (t.seconds % secondsPerDay).toNat
  let second := rest % 60 + t.nanos / leapNanos
  yearText year ++ "-" ++ padded 2 month ++ "-" ++ padded 2 day ++ "T" ++
    padded 2 (rest / 3600) ++ ":" ++ padded 2 (rest / 60 % 60) ++ ":" ++ padded 2 second

def subsecond (t : Timestamp) : Nat := t.nanos % leapNanos

def iso (t : Timestamp) : String :=
  t.secondsText ++ "." ++ padded 3 (t.subsecond / 1000000) ++ "Z"

def fullText (t : Timestamp) : String := t.secondsText ++ "." ++ padded 9 t.subsecond

def briefText (t : Timestamp) : String :=
  let n := t.subsecond
  t.secondsText ++
    (if n = 0 then ""
     else if n % 1000000 = 0 then "." ++ padded 3 (n / 1000000)
     else if n % 1000 = 0 then "." ++ padded 6 (n / 1000)
     else "." ++ padded 9 n)

namespace Reader

def value (ds : List Char) : Nat := ds.foldl (fun n d => 10 * n + (d.toNat - '0'.toNat)) 0

def number? (low high : Nat) (cs : List Char) : Option (Nat × List Char) :=
  let ds := (cs.take high).takeWhile Char.isDigit
  if ds.length < low then none else some (value ds, cs.drop ds.length)

def char? (allowed : List Char) : List Char → Option (List Char)
  | c :: rest => if allowed.contains c then some rest else none
  | [] => none

/-- The fraction of a second in nanoseconds; digits past the ninth are skipped. -/
def fraction? (cs : List Char) : Option (Nat × List Char) :=
  match cs with
  | '.' :: rest =>
    let ds := rest.takeWhile Char.isDigit
    if ds.isEmpty then none
    else
      let kept := ds.take 9
      some (value kept * pow10 (9 - kept.length), rest.drop ds.length)
  | _ => some (0, cs)

def zone? : List Char → Option (Int × List Char)
  | 'Z' :: rest | 'z' :: rest => some (0, rest)
  | sign :: rest => do
    guard (['+', '-', '−'].contains sign)
    let (hours, rest) ← number? 2 2 rest
    let rest ← char? [':'] rest
    let (minutes, rest) ← number? 2 2 rest
    guard (hours ≤ 23 ∧ minutes ≤ 59)
    let east : Int := hours * 3600 + minutes * 60
    some (if sign = '+' then east else -east, rest)
  | [] => none

def profile? (cs : List Char) : Option Timestamp := do
  let (year, cs) ← number? 4 4 cs
  let cs ← char? ['-'] cs
  let (month, cs) ← number? 2 2 cs
  let cs ← char? ['-'] cs
  let (day, cs) ← number? 2 2 cs
  let cs ← char? ['T', 't', ' '] cs
  let (hour, cs) ← number? 2 2 cs
  let cs ← char? [':'] cs
  let (minute, cs) ← number? 2 2 cs
  let cs ← char? [':'] cs
  let (second, cs) ← number? 2 2 cs
  let (nanos, cs) ← fraction? cs
  let (east, cs) ← zone? cs
  guard cs.isEmpty
  let zoned ← ofCivil? year month day hour minute second nanos
  some { zoned with seconds := zoned.seconds - east }

def signedYear? (cs : List Char) : Option (Int × List Char) :=
  match cs with
  | '-' :: rest => (number? 1 rest.length rest).map fun (n, rest) => (-(n : Int), rest)
  | '+' :: rest => (number? 1 rest.length rest).map fun (n, rest) => ((n : Int), rest)
  | cs => (number? 1 4 cs).map fun (n, rest) => ((n : Int), rest)

/-- The form without a zone: blanks may stand before each number, and numbers
may be short of digits. -/
def zoneless? (cs : List Char) : Option Timestamp := do
  let short (cs : List Char) := number? 1 2 (Text.trimStart cs)
  let (year, cs) ← signedYear? (Text.trimStart cs)
  let cs ← char? ['-'] cs
  let (month, cs) ← short cs
  let cs ← char? ['-'] cs
  let (day, cs) ← short cs
  let cs ← char? ['T'] cs
  let (hour, cs) ← short cs
  let cs ← char? [':'] cs
  let (minute, cs) ← short cs
  let cs ← char? [':'] cs
  let (second, cs) ← short cs
  let (nanos, cs) ← fraction? cs
  guard cs.isEmpty
  ofCivil? year month day hour minute second nanos

end Reader

def ofText? (text : String) : Option Timestamp :=
  (Reader.profile? text.toList).or (Reader.zoneless? text.toList)

end DocSql.Timestamp
