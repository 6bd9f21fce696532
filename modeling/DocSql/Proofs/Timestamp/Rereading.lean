import DocSql.Proofs.Storage.RoundTrip

/-!
An instant that was read, written and read again. Reading knows two forms of a
text and writing one; a year outside 0 to 9999 is written with a sign, which the
form with a zone does not have, and the `Z` is what the other form lacks. So the
instant comes back to its last whole millisecond, or not at all.
-/
namespace DocSql.Timestamp

open Reader (value)

def year (t : Timestamp) : Int := (civilFromDays t.day).1

def HasPlainYear (t : Timestamp) : Prop := 0 ≤ t.year ∧ t.year ≤ 9999

instance (t : Timestamp) : Decidable t.HasPlainYear := inferInstanceAs (Decidable (_ ∧ _))

def wholeMillis (t : Timestamp) : Timestamp := { t with nanos := t.nanos - t.nanos % 1000000 }

/-- A leap second follows the last second of a minute. -/
structure IsRead (t : Timestamp) : Prop where
  nanos_lt : t.nanos < 2 * leapNanos
  leap : leapNanos ≤ t.nanos → t.seconds % 60 = 59

theorem ofCivil?_isRead {year : Int} {month day hour minute second nanos : Nat} {t : Timestamp}
    (h : ofCivil? year month day hour minute second nanos = some t) : t.IsRead := by
  unfold ofCivil? at h
  split at h
  next hin =>
    obtain ⟨-, -, -, -, -, -, -, -, -, hnanos⟩ := hin
    cases h
    unfold leapNanos at hnanos
    -- The second 60 is kept as the 59th with a second of nanoseconds more.
    constructor
    · simp only [leapNanos]
      split
      · omega
      · omega
    · simp only [leapNanos, secondsPerDay]
      split
      · omega
      · omega
  · cases h

namespace Reader

theorem zone?_minutes {cs rest : List Char} {east : Int} (h : zone? cs = some (east, rest)) :
    east % 60 = 0 := by
  unfold zone? at h
  split at h
  · cases h
    rfl
  · cases h
    rfl
  · simp only [Option.bind_eq_bind, Option.bind_eq_some_iff] at h
    obtain ⟨-, -, ⟨hours, _⟩, -, _, -, ⟨minutes, _⟩, -, -, -, h⟩ := h
    cases h
    split
    · omega
    · omega
  · cases h

theorem profile?_isRead {cs : List Char} {t : Timestamp} (h : profile? cs = some t) :
    t.IsRead := by
  unfold profile? at h
  obtain ⟨_, -, h⟩ := Option.bind_eq_some_iff.1 h
  obtain ⟨_, -, h⟩ := Option.bind_eq_some_iff.1 h
  obtain ⟨_, -, h⟩ := Option.bind_eq_some_iff.1 h
  obtain ⟨_, -, h⟩ := Option.bind_eq_some_iff.1 h
  obtain ⟨_, -, h⟩ := Option.bind_eq_some_iff.1 h
  obtain ⟨_, -, h⟩ := Option.bind_eq_some_iff.1 h
  obtain ⟨_, -, h⟩ := Option.bind_eq_some_iff.1 h
  obtain ⟨_, -, h⟩ := Option.bind_eq_some_iff.1 h
  obtain ⟨_, -, h⟩ := Option.bind_eq_some_iff.1 h
  obtain ⟨_, -, h⟩ := Option.bind_eq_some_iff.1 h
  obtain ⟨_, -, h⟩ := Option.bind_eq_some_iff.1 h
  obtain ⟨_, -, h⟩ := Option.bind_eq_some_iff.1 h
  obtain ⟨⟨east, _⟩, hzone, h⟩ := Option.bind_eq_some_iff.1 h
  obtain ⟨_, -, h⟩ := Option.bind_eq_some_iff.1 h
  obtain ⟨zoned, hzoned, h⟩ := Option.bind_eq_some_iff.1 h
  cases h
  have hread := ofCivil?_isRead hzoned
  have hminutes := zone?_minutes hzone
  refine ⟨hread.nanos_lt, fun hleap => ?_⟩
  have hlast := hread.leap hleap
  dsimp only
  omega

theorem mem_drop_digits {cs ds : List Char} (hp : ds <+: cs) (hds : ∀ d ∈ ds, d.isDigit)
    (hz : 'Z' ∈ cs) : 'Z' ∈ cs.drop ds.length := by
  obtain ⟨rest, rfl⟩ := hp
  rw [List.drop_left]
  rcases List.mem_append.1 hz with hz | hz
  · cases hds _ hz
  · exact hz

theorem mem_of_number? {low high : Nat} {cs : List Char} {found : Nat × List Char}
    (h : number? low high cs = some found) (hz : 'Z' ∈ cs) : 'Z' ∈ found.2 := by
  unfold number? at h
  dsimp only at h
  split at h
  · cases h
  · cases h
    exact mem_drop_digits ((List.takeWhile_prefix _).trans (List.take_prefix _ _))
      (fun d hd => List.mem_takeWhile_imp hd) hz

theorem mem_of_char? {allowed cs rest : List Char} (ha : 'Z' ∉ allowed)
    (h : char? allowed cs = some rest) (hz : 'Z' ∈ cs) : 'Z' ∈ rest := by
  cases cs with
  | nil => cases h
  | cons c others =>
    rw [char?] at h
    split at h
    next hc =>
      cases h
      rcases List.mem_cons.1 hz with rfl | hz
      · exact absurd (List.contains_iff_mem.1 hc) ha
      · exact hz
    next => cases h

theorem mem_trimStart {cs : List Char} (hz : 'Z' ∈ cs) : 'Z' ∈ Text.trimStart cs := by
  rw [← List.takeWhile_append_dropWhile (p := Text.isBlank) (l := cs)] at hz
  rcases List.mem_append.1 hz with hz | hz
  · exact absurd (List.mem_takeWhile_imp hz) (by decide)
  · exact hz

theorem mem_of_fraction? {cs : List Char} {found : Nat × List Char}
    (h : fraction? cs = some found) (hz : 'Z' ∈ cs) : 'Z' ∈ found.2 := by
  unfold fraction? at h
  split at h
  next rest =>
    dsimp only at h
    split at h
    · cases h
    · cases h
      have hrest : 'Z' ∈ rest := by simpa using hz
      exact mem_drop_digits (List.takeWhile_prefix _) (fun d hd => List.mem_takeWhile_imp hd) hrest
  next =>
    cases h
    exact hz

theorem mem_of_signedYear? {cs : List Char} {found : Int × List Char}
    (h : signedYear? cs = some found) (hz : 'Z' ∈ cs) : 'Z' ∈ found.2 := by
  unfold signedYear? at h
  split at h
  · obtain ⟨_, hnumber, rfl⟩ := Option.map_eq_some_iff.1 h
    exact mem_of_number? hnumber (by simpa using hz)
  · obtain ⟨_, hnumber, rfl⟩ := Option.map_eq_some_iff.1 h
    exact mem_of_number? hnumber (by simpa using hz)
  · obtain ⟨_, hnumber, rfl⟩ := Option.map_eq_some_iff.1 h
    exact mem_of_number? hnumber hz

theorem zoneless?_reads {cs : List Char} {t : Timestamp} (h : zoneless? cs = some t) :
    t.IsRead ∧ 'Z' ∉ cs := by
  unfold zoneless? at h
  obtain ⟨_, hyear, h⟩ := Option.bind_eq_some_iff.1 h
  obtain ⟨_, hfirst, h⟩ := Option.bind_eq_some_iff.1 h
  obtain ⟨_, hmonth, h⟩ := Option.bind_eq_some_iff.1 h
  obtain ⟨_, hsecond, h⟩ := Option.bind_eq_some_iff.1 h
  obtain ⟨_, hday, h⟩ := Option.bind_eq_some_iff.1 h
  obtain ⟨_, hthird, h⟩ := Option.bind_eq_some_iff.1 h
  obtain ⟨_, hhour, h⟩ := Option.bind_eq_some_iff.1 h
  obtain ⟨_, hfourth, h⟩ := Option.bind_eq_some_iff.1 h
  obtain ⟨_, hminute, h⟩ := Option.bind_eq_some_iff.1 h
  obtain ⟨_, hfifth, h⟩ := Option.bind_eq_some_iff.1 h
  obtain ⟨_, hsec, h⟩ := Option.bind_eq_some_iff.1 h
  obtain ⟨⟨_, rest⟩, hfraction, h⟩ := Option.bind_eq_some_iff.1 h
  obtain ⟨_, hend, h⟩ := Option.bind_eq_some_iff.1 h
  refine ⟨ofCivil?_isRead h, fun hz => ?_⟩
  -- No part of the form takes a `Z`, so it would still be there at the end.
  have hz := mem_of_char? (by decide) hfirst (mem_of_signedYear? hyear (mem_trimStart hz))
  have hz := mem_of_char? (by decide) hsecond (mem_of_number? hmonth (mem_trimStart hz))
  have hz := mem_of_char? (by decide) hthird (mem_of_number? hday (mem_trimStart hz))
  have hz := mem_of_char? (by decide) hfourth (mem_of_number? hhour (mem_trimStart hz))
  have hz := mem_of_char? (by decide) hfifth (mem_of_number? hminute (mem_trimStart hz))
  have hz := mem_of_fraction? hfraction (mem_of_number? hsec (mem_trimStart hz))
  cases rest with
  | nil => cases hz
  | cons c cs => cases hend

end Reader

theorem ofText?_isRead {text : String} {t : Timestamp} (h : ofText? text = some t) : t.IsRead := by
  rcases Option.or_eq_some_iff.1 h with h | ⟨-, h⟩
  · exact Reader.profile?_isRead h
  · exact (Reader.zoneless?_reads h).1

theorem parse_isRead {text : String} {t : Timestamp} (h : parse text = .ok t) : t.IsRead := by
  unfold parse at h
  split at h
  next found hfound =>
    cases h
    exact ofText?_isRead hfound
  next => cases h

theorem ofJson_isRead {value : Json} {t : Timestamp} (h : ofJson value = .ok t) : t.IsRead := by
  unfold ofJson at h
  split at h
  · exact parse_isRead h
  · split at h
    · split at h
      · exact parse_isRead h
      · cases h
    · cases h

def digits (width n : Nat) : List Char := (padded width n).toList

theorem digits_eq (width n : Nat) : digits width n =
    List.replicate (width - (Nat.toDigits 10 n).length) '0' ++ Nat.toDigits 10 n := by
  simp [digits, padded]

theorem digits_isNumber {width n : Nat} (hw : 0 < width) (h : n < 10 ^ width) :
    IsNumber width (digits width n) := by
  have hlength := (Nat.length_toDigits_le_iff (by decide) hw).2 h
  rw [digits_eq]
  constructor
  · rw [List.length_append, List.length_replicate]
    omega
  · intro d hd
    rcases List.mem_append.1 hd with hd | hd
    · rw [List.eq_of_mem_replicate hd]
      rfl
    · exact Nat.isDigit_of_mem_toDigits (by decide) (by decide) hd

theorem value_digits (width n : Nat) : value (digits width n) = n := by
  rw [digits_eq]
  change Nat.ofDigitChars 10 _ 0 = n
  rw [Nat.ofDigitChars_append, Nat.ofDigitChars_replicate_zero, Nat.mul_zero,
    Nat.ofDigitChars_ten_toDigits]

theorem daysInMonth_le (year : Int) (month : Nat) : daysInMonth year month ≤ 31 := by
  unfold daysInMonth
  split
  · split
    · decide
    · decide
  · split
    · decide
    · decide

def IsoFields.ofNumbers (year month day hour minute second milli : Nat) : IsoFields where
  year := digits 4 year
  month := digits 2 month
  day := digits 2 day
  hour := digits 2 hour
  minute := digits 2 minute
  second := digits 2 second
  milli := digits 3 milli

theorem IsoFields.ofNumbers_isValid {year month day hour minute second milli : Nat}
    (hy : year ≤ 9999) (hm : 1 ≤ month ∧ month ≤ 12)
    (hd : 1 ≤ day ∧ day ≤ daysInMonth year month) (hhour : hour ≤ 23) (hminute : minute ≤ 59)
    (hsecond : second ≤ 60) (hmilli : milli ≤ 999) :
    (ofNumbers year month day hour minute second milli).IsValid := by
  have hyears : IsNumber 4 (digits 4 year) := digits_isNumber (by decide) (by omega)
  have hmillis : IsNumber 3 (digits 3 milli) := digits_isNumber (by decide) (by omega)
  have htwo (n : Nat) (h : n ≤ 99) : IsNumber 2 (digits 2 n) :=
    digits_isNumber (by decide) (by omega)
  have hday : day ≤ 99 := (hd.2.trans (daysInMonth_le year month)).trans (by decide)
  unfold ofNumbers
  constructor
  all_goals dsimp only
  · exact hyears
  · exact htwo month (hm.2.trans (by decide))
  · exact htwo day hday
  · exact htwo hour (by omega)
  · exact htwo minute (by omega)
  · exact htwo second (by omega)
  · exact hmillis
  · rwa [value_digits]
  · rwa [value_digits, value_digits, value_digits]
  · rwa [value_digits]
  · rwa [value_digits]
  · rwa [value_digits]

/-- An instant of a year of four digits has a canonical text to the millisecond. -/
theorem exists_fields {t : Timestamp} (h : t.IsRead) (hy : t.HasPlainYear) :
    ∃ f : IsoFields, f.IsValid ∧ f.instant = t.wholeMillis := by
  obtain ⟨seconds, nanos⟩ := t
  obtain ⟨year, month, day, hm, hd, hdays⟩ := exists_civil (seconds / 86400)
  obtain ⟨hlow, hhigh⟩ : 0 ≤ year ∧ year ≤ 9999 := by
    have hcivil := civilFromDays_daysFromCivil hm hd
    rw [hdays] at hcivil
    change 0 ≤ (civilFromDays (seconds / 86400)).1 ∧ (civilFromDays (seconds / 86400)).1 ≤ 9999 at hy
    rwa [hcivil] at hy
  obtain ⟨year, rfl⟩ := Int.eq_ofNat_of_zero_le hlow
  have hnanos : nanos < 2 * 1000000000 := h.nanos_lt
  have hleap : 1000000000 ≤ nanos → seconds % 60 = 59 := h.leap
  obtain ⟨ofDay, hofDay⟩ : ∃ ofDay : Nat, seconds = seconds / 86400 * 86400 + ofDay ∧ ofDay < 86400 :=
    ⟨(seconds % 86400).toNat, by omega, by omega⟩
  refine ⟨.ofNumbers year month day (ofDay / 3600) (ofDay / 60 % 60)
    (ofDay % 60 + nanos / 1000000000) (nanos % 1000000000 / 1000000),
    IsoFields.ofNumbers_isValid (by omega) hm hd (by omega) (by omega) (by omega) (by omega), ?_⟩
  simp only [IsoFields.instant, IsoFields.days, IsoFields.secondOfDay, IsoFields.nanos,
    IsoFields.ofNumbers, value_digits, hdays, wholeMillis, secondsPerDay, leapNanos,
    Timestamp.mk.injEq]
  clear hdays hd hm h hy
  constructor
  · omega
  · split
    · omega
    · omega

theorem iso_wholeMillis (t : Timestamp) : t.wholeMillis.iso = t.iso := by
  have hleap : (t.nanos - t.nanos % 1000000) / leapNanos = t.nanos / leapNanos := by
    unfold leapNanos
    omega
  have hmilli : (t.nanos - t.nanos % 1000000) % leapNanos / 1000000 =
      t.nanos % leapNanos / 1000000 := by
    unfold leapNanos
    omega
  simp only [iso, secondsText, subsecond, day, wholeMillis, hleap, hmilli]

theorem ofText?_iso_plain {t : Timestamp} (h : t.IsRead) (hy : t.HasPlainYear) :
    ofText? t.iso = some t.wholeMillis := by
  obtain ⟨f, hf, hinstant⟩ := exists_fields h hy
  rw [← iso_wholeMillis, ← hinstant, hf.iso, ofText?, String.toList_ofList, hf.profile?,
    Option.some_or]

theorem Reader.profile?_signed {c : Char} (h : c.isDigit = false) (cs : List Char) :
    profile? (c :: cs) = none := by
  have hyear : number? 4 4 (c :: cs) = none := by
    simp [number?, h]
  unfold profile?
  rw [hyear]
  rfl

theorem iso_toList (t : Timestamp) : ∃ rest, t.iso.toList = (yearText t.year).toList ++ rest ∧
    'Z' ∈ rest := by
  unfold iso secondsText year
  simp only [String.toList_append, List.append_assoc]
  exact ⟨_, rfl, by simp⟩

theorem ofText?_iso_signed {t : Timestamp} (hy : ¬t.HasPlainYear) : ofText? t.iso = none := by
  obtain ⟨rest, hrest, hzone⟩ := t.iso_toList
  obtain ⟨sign, more, hyear, hsign⟩ :
      ∃ sign more, (yearText t.year).toList = sign :: more ∧ sign.isDigit = false := by
    unfold HasPlainYear at hy
    unfold yearText
    by_cases hneg : t.year < 0
    · exact ⟨'-', _, by rw [if_pos hneg, String.toList_append]; rfl, by decide⟩
    · have hlarge : 9999 < t.year := by omega
      exact ⟨'+', _, by rw [if_neg hneg, if_pos hlarge, String.toList_append]; rfl, by decide⟩
  unfold ofText?
  rw [hrest, hyear, List.cons_append, Reader.profile?_signed hsign, Option.none_or]
  cases hread : Reader.zoneless? (sign :: (more ++ rest)) with
  | none => rfl
  | some found =>
    refine absurd ?_ (Reader.zoneless?_reads hread).2
    exact List.mem_cons_of_mem _ (List.mem_append_right _ hzone)

theorem ofJson_tagged (text : String) :
    ofJson (.object [("__type", .str "Date"), ("iso", .str text)]) = parse text := by
  rw [Json.object_of_sorted ["iso"] rfl (by decide)]
  rfl

/-- A date that was read and is given back as it is written is read as its last
whole millisecond, unless its year takes a sign: such a date is refused. -/
theorem ofJson_toJson_eq {value : Json} {t : Timestamp} (h : ofJson value = .ok t) :
    ofJson t.toJson = if t.HasPlainYear then .ok t.wholeMillis else .error (invalid t.iso) := by
  rw [toJson, ofJson_tagged]
  unfold parse
  by_cases hy : t.HasPlainYear
  · simp only [if_pos hy, ofText?_iso_plain (ofJson_isRead h) hy]
  · simp only [if_neg hy, ofText?_iso_signed hy]

/-- A leap second east of Greenwich loses its microseconds. -/
theorem leap_second_reread :
    ofJson (.str "2016-12-31T23:59:60.123456+05:30") = .ok ⟨1483208999, 1123456000⟩ ∧
      ofJson (toJson ⟨1483208999, 1123456000⟩) = .ok ⟨1483208999, 1123000000⟩ := by
  have hread : ofJson (.str "2016-12-31T23:59:60.123456+05:30") =
      .ok ⟨1483208999, 1123456000⟩ := by decide +kernel
  refine ⟨hread, ?_⟩
  rw [ofJson_toJson_eq hread]
  decide +kernel

/-- The zone moves the last evening of the year 9999 into the next year. -/
theorem next_year_refused :
    ofJson (.str "9999-12-31T23:30:00-01:00") = .ok ⟨253402302600, 0⟩ ∧
      ofJson (toJson ⟨253402302600, 0⟩) =
        .error (.invalidQuery "invalid date: +10000-01-01T00:30:00.000Z") := by
  decide +kernel

end DocSql.Timestamp
