/-!
Instants in coordinated universal time on the proleptic Gregorian calendar.
Nanoseconds from 10^9 on belong to a leap second that follows its second.
-/
namespace DocSql

structure Timestamp where
  /-- Seconds since the start of 1970. -/
  seconds : Int
  nanos : Nat
deriving DecidableEq, Inhabited

namespace Timestamp

def leapNanos : Nat := 1000000000

def secondsPerDay : Int := 86400

def isLeapYear (year : Int) : Bool :=
  year % 4 == 0 && (year % 100 != 0 || year % 400 == 0)

def daysInMonth (year : Int) (month : Nat) : Nat :=
  if month = 2 then if isLeapYear year then 29 else 28
  else if month = 4 ∨ month = 6 ∨ month = 9 ∨ month = 11 then 30
  else 31

/-- Days from the start of 1970 to a date. Years are counted from March, so
that a leap day ends its year, in cycles of 400 years and 146097 days. -/
def daysFromCivil (year : Int) (month day : Nat) : Int :=
  let shifted := if month ≤ 2 then year - 1 else year
  let cycle := shifted / 400
  let yearOfCycle := shifted % 400
  let monthFromMarch : Int := (month + 9) % 12
  let dayOfYear := (153 * monthFromMarch + 2) / 5 + day - 1
  let dayOfCycle := yearOfCycle * 365 + yearOfCycle / 4 - yearOfCycle / 100 + dayOfYear
  cycle * 146097 + dayOfCycle - 719468

def civilFromDays (days : Int) : Int × Nat × Nat :=
  let shifted := days + 719468
  let cycle := shifted / 146097
  let dayOfCycle := shifted % 146097
  let yearOfCycle :=
    (dayOfCycle - dayOfCycle / 1460 + dayOfCycle / 36524 - dayOfCycle / 146096) / 365
  let dayOfYear := dayOfCycle - (365 * yearOfCycle + yearOfCycle / 4 - yearOfCycle / 100)
  let monthFromMarch := (5 * dayOfYear + 2) / 153
  let day := dayOfYear - (153 * monthFromMarch + 2) / 5 + 1
  let month := if monthFromMarch < 10 then monthFromMarch + 3 else monthFromMarch - 9
  let year := yearOfCycle + cycle * 400
  (if month ≤ 2 then year + 1 else year, month.toNat, day.toNat)

def minYear : Int := -262143
def maxYear : Int := 262142

def minDay : Int := daysFromCivil minYear 1 1
def maxDay : Int := daysFromCivil maxYear 12 31

/-- An instant of the calendar; second 60 is the leap second after second 59. -/
def ofCivil? (year : Int) (month day hour minute second nanos : Nat) : Option Timestamp :=
  if minYear ≤ year ∧ year ≤ maxYear ∧ 1 ≤ month ∧ month ≤ 12 ∧
      1 ≤ day ∧ day ≤ daysInMonth year month ∧
      hour ≤ 23 ∧ minute ≤ 59 ∧ second ≤ 60 ∧ nanos < leapNanos then
    let whole := min second 59
    some {
      seconds := daysFromCivil year month day * secondsPerDay + hour * 3600 + minute * 60 + whole
      nanos := if second = 60 then nanos + leapNanos else nanos }
  else none

def day (t : Timestamp) : Int := t.seconds / secondsPerDay

def inRange (t : Timestamp) : Bool := minDay ≤ t.day && t.day ≤ maxDay

/-- The instant a number of seconds later. Leaving a leap second forward drops
it, leaving it backward counts it as the second it follows. -/
def addSeconds? (t : Timestamp) (seconds : Int) : Option Timestamp :=
  let moved : Timestamp :=
    if t.nanos < leapNanos ∨ seconds = 0 then ⟨t.seconds + seconds, t.nanos⟩
    else if 0 < seconds then ⟨t.seconds + seconds, t.nanos - leapNanos⟩
    else ⟨t.seconds + 1 + seconds, t.nanos - leapNanos⟩
  if moved.inRange then some moved else none

end Timestamp
end DocSql
