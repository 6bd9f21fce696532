import DocSql.Number.Basic
import Mathlib.Algebra.Field.Rat
import Mathlib.Data.List.TakeWhile
import Mathlib.Tactic.NormNum

/-!
The number that a text writes, exactly: a sign, digits with an optional point
and an optional exponent. The text of every finite number is read, and the text
of a whole number as that number. Main statement: `Number.readDecimal?_text`.
-/
namespace DocSql

open Double (digitsValue readExponent? splitSign)

def splitFraction : List Char → List Char × List Char
  | '.' :: rest => (rest.takeWhile Char.isDigit, rest.dropWhile Char.isDigit)
  | rest => ([], rest)

def readUnsigned? (body : List Char) : Option ℚ :=
  let whole := body.takeWhile Char.isDigit
  let (fraction, tail) := splitFraction (body.dropWhile Char.isDigit)
  if whole.isEmpty && fraction.isEmpty then none
  else (readExponent? tail).map fun exponent : ℤ =>
    (digitsValue (whole ++ fraction) : ℚ) * 10 ^ (exponent - fraction.length)

def readDecimal? (text : String) : Option ℚ :=
  let (negative, body) := splitSign text.toList
  (readUnsigned? body).map fun q => if negative then -q else q

def Number.IsFinite : Number → Prop
  | int _ => True
  | float x => x.isFinite

def Number.exact : Number → ℚ
  | int n => n
  | float x => (readDecimal? (x.render .json)).getD 0

/-- A parameter carries the number as it is; larger whole numbers are rounded. -/
def Number.IsCarried : Number → Prop
  | int n => fitsInt64 n
  | float _ => True

section Unsigned

variable {whole fraction tail : List Char}

def AllDigits (cs : List Char) : Prop := ∀ c ∈ cs, c.isDigit

theorem AllDigits.append (hw : AllDigits whole) (hf : AllDigits fraction) :
    AllDigits (whole ++ fraction) := fun c hc => (List.mem_append.1 hc).elim (hw c) (hf c)

theorem allDigits_zeros (n : Nat) : AllDigits (List.replicate n '0') := fun c hc => by
  rw [List.eq_of_mem_replicate hc]
  rfl

theorem allDigits_toDigits (n : Nat) : AllDigits (Nat.toDigits 10 n) := fun _ hc =>
  Nat.isDigit_of_mem_toDigits (by decide) (by decide) hc

structure IsExponent (tail : List Char) : Prop where
  stops : ∀ c ∈ tail.head?, c.isDigit = false ∧ c ≠ '.'
  reads : (readExponent? tail).isSome

theorem isExponent_nil : IsExponent [] := ⟨nofun, rfl⟩

theorem takeWhile_digits_append (hw : AllDigits whole)
    (ht : ∀ c ∈ tail.head?, c.isDigit = false) :
    (whole ++ tail).takeWhile Char.isDigit = whole := by
  rw [List.takeWhile_append_of_pos hw]
  cases tail with
  | nil => simp
  | cons c rest => simp [ht c rfl]

theorem dropWhile_digits_append (hw : AllDigits whole)
    (ht : ∀ c ∈ tail.head?, c.isDigit = false) :
    (whole ++ tail).dropWhile Char.isDigit = tail := by
  rw [List.dropWhile_append_of_pos hw]
  cases tail with
  | nil => rfl
  | cons c rest => simp [ht c rfl]

theorem splitFraction_of_stops (ht : ∀ c ∈ tail.head?, c ≠ '.') :
    splitFraction tail = ([], tail) := by
  unfold splitFraction
  split
  next => exact absurd rfl (ht '.' rfl)
  next => rfl

theorem readUnsigned?_whole (hw : AllDigits whole) (hne : whole ≠ []) (ht : IsExponent tail) :
    readUnsigned? (whole ++ tail) =
      (readExponent? tail).map fun exponent : ℤ => (digitsValue whole : ℚ) * 10 ^ exponent := by
  have hstops := fun c hc => (ht.stops c hc).1
  unfold readUnsigned?
  rw [takeWhile_digits_append hw hstops, dropWhile_digits_append hw hstops,
    splitFraction_of_stops fun c hc => (ht.stops c hc).2]
  simp [hne]

theorem readUnsigned?_fraction (hw : AllDigits whole) (hne : whole ≠ []) (hf : AllDigits fraction)
    (ht : IsExponent tail) : (readUnsigned? (whole ++ '.' :: (fraction ++ tail))).isSome := by
  have hpoint : ∀ c ∈ ('.' :: (fraction ++ tail)).head?, c.isDigit = false := by
    simp
  have hstops := fun c hc => (ht.stops c hc).1
  unfold readUnsigned?
  rw [takeWhile_digits_append hw hpoint, dropWhile_digits_append hw hpoint, splitFraction]
  dsimp only
  rw [takeWhile_digits_append hf hstops, dropWhile_digits_append hf hstops]
  simp [hne, ht.reads]

/-- The texts that are read, the first character of each being a digit. -/
inductive IsUnsigned : List Char → Prop
  | whole {whole tail : List Char} (hw : AllDigits whole) (hne : whole ≠ []) (ht : IsExponent tail) :
    IsUnsigned (whole ++ tail)
  | fraction {whole fraction tail : List Char} (hw : AllDigits whole) (hne : whole ≠ [])
    (hf : AllDigits fraction) (ht : IsExponent tail) :
    IsUnsigned (whole ++ '.' :: (fraction ++ tail))

namespace IsUnsigned

theorem pointed (hw : AllDigits whole) (hne : whole ≠ []) (hf : AllDigits fraction) :
    IsUnsigned (whole ++ '.' :: fraction) := by
  rw [← List.append_nil fraction]
  exact .fraction hw hne hf isExponent_nil

variable {body : List Char} (h : IsUnsigned body)
include h

theorem reads : (readUnsigned? body).isSome := by
  cases h with
  | whole hw hne ht => simp [readUnsigned?_whole hw hne ht, ht.reads]
  | fraction hw hne hf ht => exact readUnsigned?_fraction hw hne hf ht

theorem splitSign_eq : splitSign body = (false, body) := by
  have hdigit : ∃ c rest, body = c :: rest ∧ c.isDigit := by
    cases h with
    | @whole whole tail hw hne ht =>
      obtain ⟨c, rest, rfl⟩ := List.exists_cons_of_ne_nil hne
      exact ⟨c, rest ++ tail, rfl, hw c List.mem_cons_self⟩
    | @fraction whole fraction tail hw hne hf ht =>
      obtain ⟨c, rest, rfl⟩ := List.exists_cons_of_ne_nil hne
      exact ⟨c, rest ++ '.' :: (fraction ++ tail), rfl, hw c List.mem_cons_self⟩
  obtain ⟨c, rest, rfl, hc⟩ := hdigit
  unfold splitSign
  split
  next heq => cases heq; exact absurd hc (by decide)
  next heq => cases heq; exact absurd hc (by decide)
  next => rfl

theorem readDecimal? (negative : Bool) :
    (readDecimal? (String.ofList ((if negative then ['-'] else []) ++ body))).isSome := by
  unfold DocSql.readDecimal?
  rw [String.toList_ofList]
  cases negative with
  | true => simpa [splitSign] using h.reads
  | false => simpa [h.splitSign_eq] using h.reads

end IsUnsigned

end Unsigned

namespace Double

theorem digitsValue_toDigits (n : Nat) : digitsValue (Nat.toDigits 10 n) = n :=
  Nat.ofDigitChars_ten_toDigits

theorem isExponent_mark (sign : List Char) (hs : sign = [] ∨ sign = ['-'] ∨ sign = ['+']) (n : Nat) :
    IsExponent ('e' :: (sign ++ Nat.toDigits 10 n)) := by
  have hsplit : ∃ negative, splitSign (sign ++ Nat.toDigits 10 n) =
      (negative, Nat.toDigits 10 n) := by
    rcases hs with rfl | rfl | rfl
    · have hunsigned : IsUnsigned (Nat.toDigits 10 n ++ []) :=
        .whole (allDigits_toDigits n) Nat.toDigits_ne_nil isExponent_nil
      rw [List.append_nil] at hunsigned
      exact ⟨false, hunsigned.splitSign_eq⟩
    · exact ⟨true, rfl⟩
    · exact ⟨false, rfl⟩
  obtain ⟨negative, hsplit⟩ := hsplit
  refine ⟨by simp, ?_⟩
  have hall : (Nat.toDigits 10 n).all Char.isDigit := List.all_eq_true.2 (allDigits_toDigits n)
  simp [readExponent?, hsplit, hall, Nat.toDigits_ne_nil]

variable {ds : List Char}

theorem positionalText_isUnsigned (hd : AllDigits ds) (point : Int) :
    IsUnsigned (positionalText .json ds point) := by
  unfold positionalText
  split
  · have hzeros : AllDigits (List.replicate point.natAbs '0' ++ ds) :=
      (allDigits_zeros _).append hd
    exact .pointed (allDigits_zeros 1) (by decide) hzeros
  next hpoint =>
    dsimp only
    have hwhole : AllDigits (ds.take point.toNat ++
        List.replicate (point.toNat - (ds.take point.toNat).length) '0') :=
      AllDigits.append (fun c hc => hd c (List.mem_of_mem_take hc)) (allDigits_zeros _)
    have hne : ds.take point.toNat ++
        List.replicate (point.toNat - (ds.take point.toNat).length) '0' ≠ [] := by
      intro hnil
      have hlength := congrArg List.length hnil
      simp at hlength
      omega
    split
    · exact .pointed hwhole hne (allDigits_zeros 1)
    · have hfraction : AllDigits (ds.drop point.toNat) := fun c hc => hd c (List.mem_of_mem_drop hc)
      exact .pointed hwhole hne hfraction

theorem exponentText_isUnsigned (hd : AllDigits ds) (hne : ds ≠ []) (point : Int) :
    IsUnsigned (exponentText .json ds point) := by
  unfold exponentText
  dsimp only
  have hexponent : IsExponent ('e' :: ((if point - 1 < 0 then ['-'] else
      if Layout.json.plusSign then ['+'] else []) ++ Nat.toDigits 10 (point - 1).natAbs)) := by
    refine isExponent_mark _ ?_ _
    split
    · exact .inr (.inl rfl)
    · exact .inr (.inr rfl)
  obtain ⟨d, rest, rfl⟩ := List.exists_cons_of_ne_nil hne
  have hfirst : AllDigits [d] := fun c hc => hd c (List.mem_cons.2 (.inl (List.mem_singleton.1 hc)))
  cases rest with
  | nil => exact .whole hfirst (List.cons_ne_nil _ _) hexponent
  | cons e rest =>
    have hrest : AllDigits (e :: rest) := fun c hc => hd c (List.mem_cons_of_mem _ hc)
    exact .fraction hfirst (List.cons_ne_nil _ _) hrest hexponent

theorem digitsValue_zeros (n : Nat) : digitsValue (List.replicate n '0') = 0 := by
  unfold digitsValue
  induction n with
  | zero => rfl
  | succ n ih => exact ih

theorem eq_zero_of_digits {n : Nat} (h : ∀ c ∈ Nat.toDigits 10 n, c = '0') : n = 0 := by
  rw [← digitsValue_toDigits n, List.eq_replicate_of_mem h, digitsValue_zeros]

theorem ofMagnitude_inj {a b : Nat} (ha : a < signBit) (hb : b < signBit)
    (h : ofMagnitude false a = ofMagnitude false b) : a = b := by
  have hbits : (UInt64.ofNat a).toNat = (UInt64.ofNat b).toNat :=
    congrArg (fun x : Double => x.bits.toNat) h
  have hsign : signBit < UInt64.size := by decide +kernel
  rwa [UInt64.toNat_ofNat_of_lt' (ha.trans hsign), UInt64.toNat_ofNat_of_lt' (hb.trans hsign)]
    at hbits

variable {x : Double} {tieUp : Bool}

theorem nearestDecimal?_ne_zero (hx : x.isZero = false) {point : Int} {count value : Nat}
    {exponent : Int} (h : nearestDecimal? x tieUp point count = some (value, exponent)) :
    value ≠ 0 := by
  rintro rfl
  unfold nearestDecimal? at h
  dsimp only at h
  obtain ⟨digits, hfound, hpair⟩ := Option.map_eq_some_iff.1 h
  cases hpair
  have hreads := List.find?_some hfound
  have hzero : ofMagnitude false 0 = ofMagnitude false x.magnitude := by
    simpa [ofDecimal] using hreads
  have hbound : x.magnitude < signBit := Nat.mod_lt _ (by decide +kernel)
  have hmagnitude := ofMagnitude_inj (by decide +kernel) hbound hzero
  rw [isZero, ← hmagnitude] at hx
  cases hx

theorem digits_allDigits : AllDigits (x.digits tieUp).1 := by
  unfold digits
  split
  · exact allDigits_zeros 1
  · intro c hc
    have hsub := (List.dropWhile_sublist (· == '0')).subset (List.mem_reverse.1 hc)
    exact allDigits_toDigits _ c (List.mem_reverse.1 hsub)

theorem positional_of_digits_nil (h : (x.digits tieUp).1 = []) :
    Layout.json.positional (x.digits tieUp).2 := by
  unfold digits at h ⊢
  split at h
  · cases h
  next hx =>
    rw [if_neg hx]
    have hzeros : ∀ c ∈ Nat.toDigits 10 (x.shortest tieUp).1, c = '0' := by
      intro c hc
      have hall := List.dropWhile_eq_nil_iff.1 (List.reverse_eq_nil_iff.1 h)
      simpa using hall c (List.mem_reverse.2 hc)
    have hvalue := eq_zero_of_digits hzeros
    have hshortest : x.shortest tieUp = (0, 0) := by
      unfold shortest at hvalue ⊢
      dsimp only at hvalue ⊢
      cases hfound : (List.range' 1 17).findSome?
          (nearestDecimal? x tieUp (decimalPoint x.units unitsPerOne)) with
      | none => rfl
      | some found =>
        obtain ⟨value, exponent⟩ := found
        obtain ⟨count, -, hcount⟩ := List.exists_of_findSome?_eq_some hfound
        rw [hfound] at hvalue
        exact absurd hvalue (nearestDecimal?_ne_zero (Bool.eq_false_iff.2 hx) hcount)
    rw [hshortest]
    rfl

theorem readDecimal?_render (h : x.isFinite) : (readDecimal? (x.render .json)).isSome := by
  have hmagnitude : x.magnitude < infinityBits := by simpa [isFinite] using h
  have hnan : x.isNaN = false := by simp [isNaN, hmagnitude.le]
  have hinfinite : x.isInfinite = false := by simp [isInfinite, hmagnitude.ne]
  unfold render
  rw [hnan, hinfinite]
  dsimp only [Bool.false_eq_true, if_false]
  refine IsUnsigned.readDecimal? ?_ x.isNegative
  split
  · exact positionalText_isUnsigned digits_allDigits _
  next hexponent =>
    refine exponentText_isUnsigned digits_allDigits (fun hnil => hexponent ?_) _
    rw [Bool.or_eq_true]
    exact .inr (positional_of_digits_nil hnil)

end Double

namespace Number

theorem readDecimal?_int (n : Int) : readDecimal? (toString n) = some n := by
  have hunsigned (m : Nat) : IsUnsigned (Nat.toDigits 10 m) := by
    rw [← List.append_nil (Nat.toDigits 10 m)]
    exact .whole (allDigits_toDigits m) Nat.toDigits_ne_nil isExponent_nil
  have hread (m : Nat) : readUnsigned? (Nat.toDigits 10 m) = some (m : ℚ) := by
    have hwhole := readUnsigned?_whole (allDigits_toDigits m) Nat.toDigits_ne_nil isExponent_nil
    rw [List.append_nil, Double.digitsValue_toDigits] at hwhole
    simpa [Double.readExponent?] using hwhole
  unfold readDecimal?
  cases n with
  | ofNat m =>
    change (match splitSign m.repr.toList with
      | (negative, body) => (readUnsigned? body).map fun q => if negative then -q else q) = _
    rw [Nat.toList_repr, (hunsigned m).splitSign_eq]
    simp [hread]
  | negSucc m =>
    change (match splitSign ("-" ++ m.succ.repr).toList with
      | (negative, body) => (readUnsigned? body).map fun q => if negative then -q else q) = _
    rw [String.toList_append, Nat.toList_repr]
    simp [splitSign, hread]

theorem readDecimal?_text {n : Number} (h : n.IsFinite) : readDecimal? n.text = some n.exact := by
  cases n with
  | int n => exact readDecimal?_int n
  | float x =>
    obtain ⟨q, hq⟩ := Option.isSome_iff_exists.1 (Double.readDecimal?_render h)
    simp only [text, exact, hq, Option.getD_some]

end Number
end DocSql
