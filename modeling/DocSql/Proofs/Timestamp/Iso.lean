import DocSql.Proofs.Timestamp.Calendar
import DocSql.Timestamp.Text
import Mathlib.Data.List.Induction
import Mathlib.Data.List.TakeWhile

/-!
The canonical text of an instant, `YYYY-MM-DDTHH:MM:SS.mmmZ`. Main statement:
such a text is read as an instant that is written as this very text.
-/
namespace DocSql.Timestamp

open Reader (value)

/-- A number with all of its digits written. -/
structure IsNumber (width : Nat) (ds : List Char) : Prop where
  length : ds.length = width
  isDigit : ∀ d ∈ ds, d.isDigit

instance (width : Nat) (ds : List Char) : Decidable (IsNumber width ds) :=
  decidable_of_iff (ds.length = width ∧ ds.all Char.isDigit)
    ⟨fun h => ⟨h.1, List.all_eq_true.1 h.2⟩, fun h => ⟨h.length, List.all_eq_true.2 h.isDigit⟩⟩

/-- The numbers of a canonical text, digit by digit. -/
structure IsoFields where
  year : List Char
  month : List Char
  day : List Char
  hour : List Char
  minute : List Char
  second : List Char
  milli : List Char

namespace IsoFields

def chars (f : IsoFields) : List Char :=
  f.year ++ '-' :: (f.month ++ '-' :: (f.day ++ 'T' :: (f.hour ++ ':' :: (f.minute ++ ':' ::
    (f.second ++ '.' :: (f.milli ++ ['Z']))))))

/-- The widths are kept and the date and time exist; second 60 is a leap second. -/
structure IsValid (f : IsoFields) : Prop where
  year : IsNumber 4 f.year
  month : IsNumber 2 f.month
  day : IsNumber 2 f.day
  hour : IsNumber 2 f.hour
  minute : IsNumber 2 f.minute
  second : IsNumber 2 f.second
  milli : IsNumber 3 f.milli
  monthOfYear : 1 ≤ value f.month ∧ value f.month ≤ 12
  dayOfMonth : 1 ≤ value f.day ∧ value f.day ≤ daysInMonth (value f.year) (value f.month)
  hourOfDay : value f.hour ≤ 23
  minuteOfHour : value f.minute ≤ 59
  secondOfMinute : value f.second ≤ 60

end IsoFields

def IsIso (text : String) : Prop := ∃ f : IsoFields, f.IsValid ∧ text.toList = f.chars

theorem digitChar_of_isDigit {d : Char} (h : d.isDigit) :
    d.toNat - '0'.toNat < 10 ∧ Nat.digitChar (d.toNat - '0'.toNat) = d := by
  simp only [Char.isDigit, Bool.and_eq_true, decide_eq_true_eq] at h
  have hlow : '0'.toNat ≤ d.toNat := h.1
  have hhigh : d.toNat ≤ '0'.toNat + 9 := h.2
  have hten : d.toNat - '0'.toNat < 10 := by omega
  refine ⟨hten, Char.toNat_inj.1 ?_⟩
  rw [Nat.toNat_digitChar_of_lt_ten hten]
  change 48 ≤ d.toNat at hlow
  change 48 + (d.toNat - 48) = d.toNat
  omega

theorem value_concat (ds : List Char) (d : Char) :
    value (ds ++ [d]) = 10 * value ds + (d.toNat - '0'.toNat) := by
  simp only [value, List.foldl_append, List.foldl_cons, List.foldl_nil]

theorem IsNumber.value_lt {width : Nat} {ds : List Char} (h : IsNumber width ds) :
    value ds < 10 ^ width := by
  obtain ⟨rfl, hdigits⟩ := h
  induction ds using List.reverseRecOn with
  | nil => decide
  | append_singleton ds d ih =>
    have hds := ih fun c hc => hdigits c (List.mem_append_left _ hc)
    have hd := (digitChar_of_isDigit (hdigits d (by simp))).1
    rw [value_concat, List.length_append, List.length_singleton, Nat.pow_succ]
    omega

theorem zeros_toDigits {ds : List Char} (hne : ds ≠ []) (h : ∀ d ∈ ds, d.isDigit) :
    List.replicate (ds.length - (Nat.toDigits 10 (value ds)).length) '0' ++
      Nat.toDigits 10 (value ds) = ds := by
  induction ds using List.reverseRecOn with
  | nil => contradiction
  | append_singleton ds d ih =>
    obtain ⟨hten, hchar⟩ := digitChar_of_isDigit (h d (by simp))
    rw [value_concat]
    generalize d.toNat - '0'.toNat = n at hten hchar
    have hlast : Nat.toDigits 10 n = [d] := by rw [Nat.toDigits_of_lt_base hten, hchar]
    by_cases hempty : ds = []
    · subst hempty
      simp [value, hlast]
    · have hds := ih hempty fun c hc => h c (List.mem_append_left _ hc)
      by_cases hzero : value ds = 0
      · have hlength : ds.length - 1 + 1 = ds.length :=
          Nat.sub_add_cancel (List.length_pos_iff.2 hempty)
        rw [hzero] at hds
        change List.replicate (ds.length - 1) '0' ++ ['0'] = ds at hds
        rw [← List.replicate_succ', hlength] at hds
        simp [hzero, hlast, hds]
      · rw [← Nat.toDigits_append_toDigits (by decide) (Nat.pos_of_ne_zero hzero) hten, hlast,
          ← List.append_assoc, List.length_append, List.length_append, Nat.add_sub_add_right, hds]

theorem IsNumber.padded {width : Nat} {ds : List Char} (h : IsNumber width ds) (hw : 0 < width) :
    padded width (value ds) = String.ofList ds := by
  obtain ⟨rfl, hdigits⟩ := h
  exact congrArg String.ofList (zeros_toDigits (List.ne_nil_of_length_pos hw) hdigits)

namespace Reader

theorem number?_digits {width : Nat} {ds : List Char} (h : IsNumber width ds) (rest : List Char) :
    number? width width (ds ++ rest) = some (value ds, rest) := by
  obtain ⟨rfl, hdigits⟩ := h
  have hrun : ds.takeWhile Char.isDigit = ds := List.takeWhile_eq_self_iff.2 hdigits
  simp [number?, hrun]

theorem fraction?_milli {ds : List Char} (h : IsNumber 3 ds) :
    fraction? ('.' :: (ds ++ ['Z'])) = some (value ds * 1000000, ['Z']) := by
  obtain ⟨hlength, hdigits⟩ := h
  have hrun : (ds ++ ['Z']).takeWhile Char.isDigit = ds := by
    rw [List.takeWhile_append_of_pos hdigits]
    simp [Char.isDigit]
  have hne : ds ≠ [] := by
    rintro rfl
    contradiction
  have hkept : ds.take 9 = ds := List.take_of_length_le (by omega)
  simp [fraction?, hrun, hne, hkept, hlength]

end Reader

namespace IsoFields

variable {f : IsoFields}

def days (f : IsoFields) : Int := daysFromCivil (value f.year) (value f.month) (value f.day)

/-- Seconds of the day; a leap second counts as the one before it. -/
def secondOfDay (f : IsoFields) : Nat :=
  value f.hour * 3600 + value f.minute * 60 + min (value f.second) 59

def nanos (f : IsoFields) : Nat :=
  if value f.second = 60 then value f.milli * 1000000 + leapNanos else value f.milli * 1000000

def instant (f : IsoFields) : Timestamp := ⟨f.days * secondsPerDay + f.secondOfDay, f.nanos⟩

theorem IsValid.ofCivil? (h : f.IsValid) :
    ofCivil? (value f.year) (value f.month) (value f.day) (value f.hour) (value f.minute)
      (value f.second) (value f.milli * 1000000) = some f.instant := by
  have hyear := h.year.value_lt
  have hmilli := h.milli.value_lt
  have hinside : minYear ≤ value f.year ∧ (value f.year : Int) ≤ maxYear := by
    unfold minYear maxYear
    omega
  have hfine : value f.milli * 1000000 < leapNanos := by
    unfold leapNanos
    omega
  unfold Timestamp.ofCivil?
  rw [if_pos ⟨hinside.1, hinside.2, h.monthOfYear.1, h.monthOfYear.2, h.dayOfMonth.1,
    h.dayOfMonth.2, h.hourOfDay, h.minuteOfHour, h.secondOfMinute, hfine⟩]
  have hseconds : f.days * secondsPerDay + value f.hour * 3600 + value f.minute * 60 +
      (min (value f.second) 59 : Nat) = f.days * secondsPerDay + (f.secondOfDay : Int) := by
    unfold secondOfDay
    omega
  exact congrArg (fun seconds => some (Timestamp.mk seconds f.nanos)) hseconds

theorem IsValid.profile? (h : f.IsValid) : Reader.profile? f.chars = some f.instant := by
  have hzoned : { f.instant with seconds := f.instant.seconds - 0 } = f.instant := by
    rw [Int.sub_zero]
  refine Option.bind_eq_some_iff.2 ⟨_, Reader.number?_digits h.year _, ?_⟩
  refine Option.bind_eq_some_iff.2 ⟨_, rfl, ?_⟩
  refine Option.bind_eq_some_iff.2 ⟨_, Reader.number?_digits h.month _, ?_⟩
  refine Option.bind_eq_some_iff.2 ⟨_, rfl, ?_⟩
  refine Option.bind_eq_some_iff.2 ⟨_, Reader.number?_digits h.day _, ?_⟩
  refine Option.bind_eq_some_iff.2 ⟨_, rfl, ?_⟩
  refine Option.bind_eq_some_iff.2 ⟨_, Reader.number?_digits h.hour _, ?_⟩
  refine Option.bind_eq_some_iff.2 ⟨_, rfl, ?_⟩
  refine Option.bind_eq_some_iff.2 ⟨_, Reader.number?_digits h.minute _, ?_⟩
  refine Option.bind_eq_some_iff.2 ⟨_, rfl, ?_⟩
  refine Option.bind_eq_some_iff.2 ⟨_, Reader.number?_digits h.second _, ?_⟩
  refine Option.bind_eq_some_iff.2 ⟨_, Reader.fraction?_milli h.milli, ?_⟩
  refine Option.bind_eq_some_iff.2 ⟨_, rfl, ?_⟩
  refine Option.bind_eq_some_iff.2 ⟨_, rfl, ?_⟩
  refine Option.bind_eq_some_iff.2 ⟨_, h.ofCivil?, ?_⟩
  exact congrArg some hzoned

theorem IsValid.iso (h : f.IsValid) : f.instant.iso = String.ofList f.chars := by
  have hyear := h.year.value_lt
  have hmilli := h.milli.value_lt
  have hhour := h.hourOfDay
  have hminute := h.minuteOfHour
  have hsecond := h.secondOfMinute
  have hrest : f.secondOfDay < 86400 := by
    unfold secondOfDay
    omega
  have hday : f.instant.day = f.days := by
    change (f.days * 86400 + (f.secondOfDay : Int)) / 86400 = f.days
    omega
  have htime : (f.instant.seconds % secondsPerDay).toNat = f.secondOfDay := by
    change ((f.days * 86400 + (f.secondOfDay : Int)) % 86400).toNat = f.secondOfDay
    omega
  have hcivil := civilFromDays_daysFromCivil h.monthOfYear h.dayOfMonth
  have hyearText : yearText (value f.year) = String.ofList f.year := by
    unfold yearText
    rw [if_neg (by omega), if_neg (by omega), String.empty_append, Int.natAbs_natCast,
      h.year.padded (by decide)]
  have hhourText : f.secondOfDay / 3600 = value f.hour := by
    unfold secondOfDay
    omega
  have hminuteText : f.secondOfDay / 60 % 60 = value f.minute := by
    unfold secondOfDay
    omega
  have hsecondText : f.secondOfDay % 60 + f.nanos / leapNanos = value f.second := by
    unfold secondOfDay nanos leapNanos
    split
    · omega
    · omega
  have hmilliText : f.nanos % leapNanos / 1000000 = value f.milli := by
    unfold nanos leapNanos
    split
    · omega
    · omega
  have hseconds : f.instant.secondsText = String.ofList (f.year ++ '-' :: (f.month ++ '-' :: (f.day ++
      'T' :: (f.hour ++ ':' :: (f.minute ++ ':' :: f.second))))) := by
    unfold secondsText
    rw [hday, htime]
    unfold days
    rw [hcivil]
    simp only [hyearText, hhourText, hminuteText]
    change _ ++ padded 2 (f.secondOfDay % 60 + f.nanos / leapNanos) = _
    rw [hsecondText, h.month.padded (by decide), h.day.padded (by decide),
      h.hour.padded (by decide), h.minute.padded (by decide), h.second.padded (by decide)]
    exact String.toList_inj.1 (by simp)
  unfold Timestamp.iso subsecond
  change _ ++ padded 3 (f.nanos % leapNanos / 1000000) ++ _ = _
  rw [hseconds, hmilliText, h.milli.padded (by decide)]
  exact String.toList_inj.1 (by simp [chars])

end IsoFields

theorem IsIso.parse {text : String} (h : IsIso text) : ∃ t, ofText? text = some t ∧ t.iso = text := by
  obtain ⟨f, hf, hchars⟩ := h
  refine ⟨f.instant, ?_, ?_⟩
  · rw [ofText?, hchars, hf.profile?, Option.some_or]
  · rw [hf.iso, ← hchars, String.ofList_toList]

end DocSql.Timestamp
