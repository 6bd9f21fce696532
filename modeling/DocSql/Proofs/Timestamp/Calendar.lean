import DocSql.Timestamp.Basic
import Mathlib.Tactic.IntervalCases

/-!
Counting days and counting back. A year is counted from March, so the leap day
is its last one, and a cycle of 400 years has 146097 days. Main statements:
every date of the calendar is found again from its count of days, and every
count of days is that of a date.
-/
namespace DocSql.Timestamp

def daysBeforeYear (year : Int) : Int := year * 365 + year / 4 - year / 100

/-- The days of a year before one of its months; March is month 0. -/
def daysBeforeMonth (month : Int) : Int := (153 * month + 2) / 5

theorem isLeapYear_congr {year other : Int} (h : year % 400 = other % 400) :
    isLeapYear year = isLeapYear other := by
  have h4 : year % 4 = other % 4 := by omega
  have h100 : year % 100 = other % 100 := by omega
  simp only [isLeapYear, h4, h100, h]

/-- The year of a cycle from a day of the cycle. Day 365 is the leap day. -/
theorem yearOfCycle_eq {year day : Int} (hy : 0 ≤ year ∧ year < 400) (hd : 0 ≤ day ∧ day ≤ 365)
    (hleap : day = 365 → isLeapYear (year + 1)) {dayOfCycle : Int}
    (hc : dayOfCycle = daysBeforeYear year + day) :
    (dayOfCycle - dayOfCycle / 1460 + dayOfCycle / 36524 - dayOfCycle / 146096) / 365 = year := by
  obtain ⟨century, hcentury⟩ : ∃ century, century = year / 100 := ⟨_, rfl⟩
  obtain ⟨olympiad, holympiad⟩ : ∃ olympiad, olympiad = year % 100 / 4 := ⟨_, rfl⟩
  obtain ⟨rest, hrest⟩ : ∃ rest, rest = year % 4 := ⟨_, rfl⟩
  have hyear : year = 100 * century + 4 * olympiad + rest := by omega
  have hdays : dayOfCycle = 36524 * century + 1461 * olympiad + 365 * rest + day := by
    unfold daysBeforeYear at hc
    omega
  have hlast : day = 365 → rest = 3 ∧ (olympiad < 24 ∨ century = 3) := by
    intro h
    have hnext := hleap h
    simp only [isLeapYear, Bool.and_eq_true, beq_iff_eq, bne_iff_ne, Bool.or_eq_true] at hnext
    omega
  have hbounds : 0 ≤ century ∧ century ≤ 3 ∧ 0 ≤ olympiad ∧ olympiad ≤ 24 ∧ 0 ≤ rest ∧ rest ≤ 3 := by
    omega
  clear hcentury holympiad hrest hleap hy hc
  subst hyear
  -- only the last day of a cycle is in a fifth century by the count of 36524 days
  by_cases hend : century = 3 ∧ olympiad = 24 ∧ rest = 3 ∧ day = 365
  · obtain ⟨rfl, rfl, rfl, rfl⟩ := hend
    rw [hdays]
    decide
  · have hcentury : dayOfCycle / 36524 = century := by omega
    have hcycle : dayOfCycle / 146096 = 0 := by omega
    have holympiad : dayOfCycle / 1460 =
        25 * century + olympiad + (24 * century + olympiad + 365 * rest + day) / 1460 := by omega
    omega

theorem dayOfYear_bounds {year : Int} {month day : Nat} (hm : 1 ≤ month ∧ month ≤ 12)
    (hd : 1 ≤ day ∧ day ≤ daysInMonth year month) {fromMarch dayOfYear : Int}
    (hf : fromMarch = (month + 9) % 12) (hy : dayOfYear = daysBeforeMonth fromMarch + day - 1) :
    0 ≤ dayOfYear ∧ dayOfYear ≤ 365 ∧ (5 * dayOfYear + 2) / 153 = fromMarch ∧
      (dayOfYear = 365 → month = 2 ∧ isLeapYear year) := by
  obtain ⟨hfirst, hlast⟩ := hm
  subst hf hy
  unfold daysInMonth at hd
  interval_cases month
  case «2» =>
    split at hd
    · split at hd
      next hleap =>
        simp [daysBeforeMonth, hleap]
        omega
      next =>
        simp [daysBeforeMonth]
        omega
    · contradiction
  all_goals
    simp [daysBeforeMonth] at hd ⊢
    omega

theorem civilFromDays_eq {cycle year day : Int} (hy : 0 ≤ year ∧ year < 400)
    (hd : 0 ≤ day ∧ day ≤ 365) (hleap : day = 365 → isLeapYear (year + 1)) :
    civilFromDays (cycle * 146097 + (daysBeforeYear year + day) - 719468) =
      let fromMarch := (5 * day + 2) / 153
      let month := if fromMarch < 10 then fromMarch + 3 else fromMarch - 9
      (if month ≤ 2 then year + cycle * 400 + 1 else year + cycle * 400, month.toNat,
        (day - daysBeforeMonth fromMarch + 1).toNat) := by
  obtain ⟨dayOfCycle, hc⟩ : ∃ dayOfCycle, dayOfCycle = daysBeforeYear year + day := ⟨_, rfl⟩
  have hyear := yearOfCycle_eq hy hd hleap hc
  have hbound : 0 ≤ dayOfCycle ∧ dayOfCycle < 146097 := by
    unfold daysBeforeYear at hc
    omega
  have hday : dayOfCycle - (365 * year + year / 4 - year / 100) = day := by
    unfold daysBeforeYear at hc
    omega
  rw [← hc]
  have hcycle : (cycle * 146097 + dayOfCycle - 719468 + 719468) / 146097 = cycle := by omega
  have hrest : (cycle * 146097 + dayOfCycle - 719468 + 719468) % 146097 = dayOfCycle := by omega
  simp only [civilFromDays, daysBeforeMonth, hcycle, hrest, hyear, hday]

theorem civilFromDays_daysFromCivil {year : Int} {month day : Nat} (hm : 1 ≤ month ∧ month ≤ 12)
    (hd : 1 ≤ day ∧ day ≤ daysInMonth year month) :
    civilFromDays (daysFromCivil year month day) = (year, month, day) := by
  obtain ⟨shifted, hs⟩ : ∃ shifted, shifted = if month ≤ 2 then year - 1 else year := ⟨_, rfl⟩
  obtain ⟨fromMarch, hf⟩ : ∃ fromMarch : Int, fromMarch = (month + 9) % 12 := ⟨_, rfl⟩
  obtain ⟨dayOfYear, hy⟩ : ∃ dayOfYear, dayOfYear = daysBeforeMonth fromMarch + day - 1 := ⟨_, rfl⟩
  obtain ⟨hfirst, hlast, hmonth, hleap⟩ := dayOfYear_bounds hm hd hf hy
  have hend : dayOfYear = 365 → isLeapYear (shifted % 400 + 1) := by
    intro h
    obtain ⟨rfl, hyear⟩ := hleap h
    rw [if_pos (by decide)] at hs
    have hcycle : (shifted % 400 + 1) % 400 = year % 400 := by omega
    rw [isLeapYear_congr hcycle, hyear]
  have hdays : daysFromCivil year month day =
      shifted / 400 * 146097 + (daysBeforeYear (shifted % 400) + dayOfYear) - 719468 := by
    simp only [daysFromCivil, daysBeforeYear, hy, daysBeforeMonth, hf, hs]
  have hback : (if fromMarch < 10 then fromMarch + 3 else fromMarch - 9) = (month : Int) := by
    split
    · omega
    · omega
  rw [hdays, civilFromDays_eq ⟨by omega, by omega⟩ ⟨hfirst, hlast⟩ hend]
  simp only [hmonth, hback, Prod.mk.injEq]
  refine ⟨?_, by omega, by omega⟩
  split at hs
  next h =>
    rw [if_pos (by omega)]
    omega
  next h =>
    rw [if_neg (by omega)]
    omega

theorem exists_year {dayOfCycle : Int} (h : 0 ≤ dayOfCycle ∧ dayOfCycle < 146097) :
    ∃ year day, (0 ≤ year ∧ year < 400) ∧ (0 ≤ day ∧ day ≤ 365) ∧
      (day = 365 → isLeapYear (year + 1)) ∧ dayOfCycle = daysBeforeYear year + day := by
  obtain ⟨century, hcentury⟩ : ∃ century, century = min (dayOfCycle / 36524) 3 := ⟨_, rfl⟩
  obtain ⟨inCentury, hin⟩ : ∃ inCentury, dayOfCycle = 36524 * century + inCentury :=
    ⟨dayOfCycle - 36524 * century, by omega⟩
  obtain ⟨olympiad, holympiad⟩ : ∃ olympiad, olympiad = inCentury / 1461 := ⟨_, rfl⟩
  obtain ⟨inOlympiad, hinner⟩ : ∃ inOlympiad, inCentury = 1461 * olympiad + inOlympiad :=
    ⟨inCentury % 1461, by omega⟩
  obtain ⟨rest, hrest⟩ : ∃ rest, rest = min (inOlympiad / 365) 3 := ⟨_, rfl⟩
  have hbounds : 0 ≤ century ∧ century ≤ 3 ∧ 0 ≤ olympiad ∧ olympiad ≤ 24 ∧ 0 ≤ rest ∧ rest ≤ 3 := by
    omega
  refine ⟨100 * century + 4 * olympiad + rest, inOlympiad - 365 * rest, by omega, by omega, ?_, ?_⟩
  · intro hlast
    have hfour : rest = 3 := by omega
    have hcycle : olympiad < 24 ∨ century = 3 := by omega
    simp only [isLeapYear, Bool.and_eq_true, beq_iff_eq, bne_iff_ne, Bool.or_eq_true]
    omega
  · unfold daysBeforeYear
    omega

theorem exists_month {year day : Int} (hd : 0 ≤ day ∧ day ≤ 365)
    (hleap : day = 365 → isLeapYear (year + 1)) :
    ∃ month dayOfMonth : Nat, (1 ≤ month ∧ month ≤ 12) ∧
      (1 ≤ dayOfMonth ∧
        dayOfMonth ≤ daysInMonth (if month ≤ 2 then year + 1 else year) month) ∧
      day = daysBeforeMonth ((month + 9) % 12 : Nat) + dayOfMonth - 1 := by
  obtain ⟨fromMarch, hf⟩ : ∃ fromMarch : Nat, fromMarch = ((5 * day + 2) / 153).toNat := ⟨_, rfl⟩
  have hmonth : fromMarch < 12 := by omega
  refine ⟨(fromMarch + 2) % 12 + 1, (day - daysBeforeMonth fromMarch + 1).toNat, by omega, ?_, ?_⟩
  · unfold daysBeforeMonth daysInMonth
    interval_cases fromMarch
    case «11» =>
      simp
      split
      · omega
      next h =>
        have : day ≠ 365 := fun hday => h (hleap hday)
        omega
    all_goals
      simp
      omega
  · unfold daysBeforeMonth
    interval_cases fromMarch
    all_goals
      simp
      omega

theorem exists_civil (days : Int) : ∃ (year : Int) (month day : Nat),
    (1 ≤ month ∧ month ≤ 12) ∧ (1 ≤ day ∧ day ≤ daysInMonth year month) ∧
      daysFromCivil year month day = days := by
  obtain ⟨cycle, hcycle⟩ : ∃ cycle, cycle = (days + 719468) / 146097 := ⟨_, rfl⟩
  have hinside : 0 ≤ days + 719468 - cycle * 146097 ∧ days + 719468 - cycle * 146097 < 146097 := by
    omega
  obtain ⟨year, dayOfYear, hy, hd, hleap, hdays⟩ := exists_year hinside
  obtain ⟨month, day, hm, hday, hcount⟩ := exists_month hd hleap
  obtain ⟨shifted, hs⟩ : ∃ shifted, shifted = year + cycle * 400 := ⟨_, rfl⟩
  refine ⟨if month ≤ 2 then shifted + 1 else shifted, month, day, hm, ?_, ?_⟩
  · have hsame : daysInMonth (if month ≤ 2 then shifted + 1 else shifted) month =
        daysInMonth (if month ≤ 2 then year + 1 else year) month := by
      have hyears : (if month ≤ 2 then shifted + 1 else shifted) % 400 =
          (if month ≤ 2 then year + 1 else year) % 400 := by
        split
        · omega
        · omega
      unfold daysInMonth
      rw [isLeapYear_congr hyears]
    rwa [hsame]
  · have hback : (if month ≤ 2 then (if month ≤ 2 then shifted + 1 else shifted) - 1
        else (if month ≤ 2 then shifted + 1 else shifted)) = shifted := by
      split
      · omega
      · rfl
    have hquotient : shifted / 400 = cycle := by omega
    have hremainder : shifted % 400 = year := by omega
    unfold daysBeforeYear at hdays
    unfold daysBeforeMonth at hcount
    simp only [daysFromCivil, hback, hquotient, hremainder]
    push_cast at hcount
    omega

end DocSql.Timestamp
