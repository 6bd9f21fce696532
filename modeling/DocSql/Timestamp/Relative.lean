import DocSql.Error
import DocSql.Json.Basic
import DocSql.Text.Blank
import DocSql.Text.Lowercase
import DocSql.Timestamp.Basic

/-!
Instants said relative to another: `now`, `in 2 days 3 hours`, `1 week ago`.
Every amount, product and sum has to fit 64 bits, and the result the calendar.
-/
namespace DocSql.Timestamp.Relative

def invalid (info : String) : Error := .invalidQuery ("bad $relativeTime value: " ++ info)

def outOfRange : Error := invalid "Relative time is out of range"

def unitSeconds? : String → Option Int
  | "yr" | "yrs" | "year" | "years" => some 31536000
  | "wk" | "wks" | "week" | "weeks" => some 604800
  | "d" | "day" | "days" => some 86400
  | "hr" | "hrs" | "hour" | "hours" => some 3600
  | "min" | "mins" | "minute" | "minutes" => some 60
  | "sec" | "secs" | "second" | "seconds" => some 1
  | _ => none

def addPairs (sum : Int) : List String → Except Error Int
  | [] => .ok sum
  | [_] => .error (invalid "Invalid time string. Dangling unit or number.")
  | amount :: unit :: rest => do
    let some n := Number.int64OfText? amount | throw (invalid ("'" ++ amount ++ "' is not an integer."))
    let some size := unitSeconds? unit | throw (invalid ("Invalid interval: '" ++ unit ++ "'"))
    if Number.fitsInt64 (n * size) && Number.fitsInt64 (sum + n * size) then addPairs (sum + n * size) rest
    else throw outOfRange

/-- The longest span that has a whole number of milliseconds in 64 bits. -/
def maxSpan : Int := Number.maxInt64 / 1000

def shift (now : Timestamp) (future : Bool) (pairs : List String) : Except Error Timestamp := do
  if pairs.length % 2 ≠ 0 then throw (invalid "Invalid time string. Dangling unit or number.")
  let seconds ← addPairs 0 pairs
  if maxSpan < seconds.natAbs then throw outOfRange
  match now.addSeconds? (if future then seconds else -seconds) with
  | some t => pure t
  | none => throw outOfRange

def resolve (now : Timestamp) (text : String) : Except Error Timestamp :=
  let words := (Text.words (Text.lower text.toList)).map String.ofList
  if words = ["now"] then .ok now
  else match words.head? == some "in", words.getLast? == some "ago" with
    | false, false => .error (invalid "Time should either start with 'in' or end with 'ago'")
    | true, true => .error (invalid "Time cannot have both 'in' and 'ago'")
    | true, false => shift now true words.tail
    | false, true => shift now false words.dropLast

end DocSql.Timestamp.Relative
