import DocSql.Number.Basic
import Mathlib.Algebra.Order.Field.Rat
import Mathlib.Order.Monotone.Basic
import Mathlib.Tactic.NormNum
import Mathlib.Tactic.Ring

/-!
The number that a binary64 pattern stands for. A finite pattern is a significand
of at most 53 bits times a power of two, and the larger of two patterns without
signs is the larger number, so two patterns are one number only where both are
a zero.
-/
namespace DocSql.Double

def value (x : Double) : ℚ := x.signedUnits / unitsPerOne

variable {x y : Double} {shift significand : Nat}

theorem pow2_pos (n : Nat) : 0 < pow2 n := Nat.two_pow_pos n

theorem pow2_add (m n : Nat) : pow2 (m + n) = pow2 m * pow2 n := Nat.pow_add 2 m n

theorem pow2_11 : pow2 11 = 2048 := rfl

theorem pow2_52 : pow2 52 = 4503599627370496 := rfl

theorem pow2_53 : pow2 53 = 9007199254740992 := rfl

theorem pow2_63 : pow2 63 = 9223372036854775808 := rfl

theorem pow2_64 : pow2 64 = 18446744073709551616 := rfl

theorem signBit_eq : signBit = 9223372036854775808 := rfl

theorem infinityBits_eq : infinityBits = 9218868437227405312 := rfl

theorem unitsPerOne_pos : 0 < unitsPerOne := by
  unfold unitsPerOne
  exact pow2_pos 1074

theorem value_eq_iff : x.value = y.value ↔ x.signedUnits = y.signedUnits := by
  have hone : (unitsPerOne : ℚ) ≠ 0 := Nat.cast_ne_zero.2 unitsPerOne_pos.ne'
  rw [value, value, div_left_inj' hone, Int.cast_inj]

theorem natAbs_signedUnits (x : Double) : x.signedUnits.natAbs = x.units := by
  unfold signedUnits
  split
  · rw [Int.natAbs_neg, Int.natAbs_natCast]
  · rw [Int.natAbs_natCast]

theorem isNaN_of_isFinite (h : x.isFinite) : x.isNaN = false := by
  simp only [isFinite, decide_eq_true_eq] at h
  simp only [isNaN, decide_eq_false_iff_not]
  omega

theorem same_iff (hx : x.isFinite) (hy : y.isFinite) : x.same y ↔ x.value = y.value := by
  simp [same, isNaN_of_isFinite hx, isNaN_of_isFinite hy, value_eq_iff]

def unitsOf (magnitude : Nat) : Nat :=
  let exponent := magnitude / pow2 52
  let fraction := magnitude % pow2 52
  if exponent = 0 then fraction else (pow2 52 + fraction) * pow2 (exponent - 1)

/-- A significand of 53 bits, or the carry out of them, that only the smallest
numbers do not fill. -/
structure IsScaled (shift significand : Nat) : Prop where
  le : significand ≤ pow2 53
  full : shift = 0 ∨ pow2 52 ≤ significand

theorem unitsOf_scaled (h : IsScaled shift significand) :
    unitsOf (shift * pow2 52 + significand) = significand * pow2 shift := by
  obtain ⟨hle, hfull⟩ := h
  rw [pow2_53] at hle
  unfold unitsOf
  rw [pow2_52] at hfull ⊢
  dsimp only
  by_cases hsub : significand < 4503599627370496
  · -- subnormal: the pattern is the number
    obtain rfl : shift = 0 := hfull.resolve_right (by omega)
    rw [if_pos (by omega), Nat.mod_eq_of_lt (by omega)]
    simp
  · by_cases hcarry : significand = 9007199254740992
    · -- the carry is the next power of two
      have hexponent : (shift * 4503599627370496 + significand) / 4503599627370496 = shift + 2 := by
        omega
      have hfraction : (shift * 4503599627370496 + significand) % 4503599627370496 = 0 := by omega
      rw [hexponent, hfraction, if_neg (by omega), hcarry]
      simp only [pow2, Nat.pow_eq, show shift + 2 - 1 = shift + 1 from rfl]
      ring
    · have hexponent : (shift * 4503599627370496 + significand) / 4503599627370496 = shift + 1 := by
        omega
      have hfraction : 4503599627370496 + (shift * 4503599627370496 + significand) %
          4503599627370496 = significand := by omega
      rw [hexponent, hfraction, if_neg (by omega), Nat.add_sub_cancel]

theorem exists_scaled (magnitude : Nat) : ∃ shift significand,
    IsScaled shift significand ∧ significand < pow2 53 ∧
      magnitude = shift * pow2 52 + significand := by
  rw [pow2_52, pow2_53]
  obtain ⟨shift, hshift⟩ : ∃ shift, shift = magnitude / 4503599627370496 - 1 := ⟨_, rfl⟩
  refine ⟨shift, magnitude - shift * 4503599627370496, ⟨?_, ?_⟩, ?_, ?_⟩
  · rw [pow2_53]
    omega
  · rw [pow2_52]
    omega
  · omega
  · omega

theorem unitsOf_strictMono : StrictMono unitsOf := by
  refine strictMono_nat_of_lt_succ fun magnitude => ?_
  obtain ⟨shift, significand, hscaled, hlt, rfl⟩ := exists_scaled magnitude
  have hnext : IsScaled shift (significand + 1) :=
    ⟨hlt, hscaled.full.imp_right fun h => h.trans (Nat.le_succ _)⟩
  rw [unitsOf_scaled hscaled, Nat.add_assoc, unitsOf_scaled hnext]
  exact Nat.mul_lt_mul_of_pos_right (Nat.lt_succ_self _) (pow2_pos _)

theorem dvd_units_or_lt (x : Double) (shift : Nat) :
    pow2 shift ∣ x.units ∨ 0 < shift ∧ x.units < pow2 52 * pow2 shift := by
  obtain ⟨own, significand, hscaled, hlt, hmagnitude⟩ := exists_scaled x.magnitude
  have hunits : x.units = significand * pow2 own := by
    change unitsOf x.magnitude = _
    rw [hmagnitude, unitsOf_scaled hscaled]
  rw [hunits]
  by_cases h : shift ≤ own
  · exact .inl (Dvd.dvd.mul_left (Nat.pow_dvd_pow 2 h) significand)
  · refine .inr ⟨by omega, ?_⟩
    calc significand * pow2 own < pow2 53 * pow2 own :=
          Nat.mul_lt_mul_of_pos_right hlt (pow2_pos _)
      _ = pow2 52 * pow2 (own + 1) := by simp only [pow2, Nat.pow_eq]; ring
      _ ≤ pow2 52 * pow2 shift :=
          Nat.mul_le_mul_left _ (Nat.pow_le_pow_right (by decide) (by omega))

theorem units_inj (h : x.units = y.units) : x.magnitude = y.magnitude :=
  unitsOf_strictMono.injective h

theorem eq_of_magnitude (hsign : x.isNegative = y.isNegative) (h : x.magnitude = y.magnitude) :
    x = y := by
  have hx := x.bits.toNat_lt
  have hy := y.bits.toNat_lt
  have hbits : x.bits.toNat = y.bits.toNat := by
    rw [isNegative, isNegative, decide_eq_decide, signBit_eq] at hsign
    rw [magnitude, magnitude, signBit_eq] at h
    omega
  obtain ⟨bits⟩ := x
  obtain ⟨bits'⟩ := y
  exact congrArg Double.mk (UInt64.toNat_inj.1 hbits)

theorem units_pos_iff : 0 < x.units ↔ x.isZero = false := by
  have hzero : unitsOf 0 = 0 := rfl
  change 0 < unitsOf x.magnitude ↔ _
  conv_lhs => rw [← hzero, unitsOf_strictMono.lt_iff_lt]
  simp [isZero, Nat.pos_iff_ne_zero]

theorem eq_or_isZero_of_value_eq (h : x.value = y.value) : x = y ∨ x.isZero ∧ y.isZero := by
  rw [value_eq_iff] at h
  unfold signedUnits at h
  by_cases hx : x.isZero
  · right
    refine ⟨hx, ?_⟩
    have hxu : ¬ 0 < x.units := by simp [units_pos_iff, hx]
    have hyu : ¬ 0 < y.units := by
      split at h
      · split at h
        · omega
        · omega
      · split at h
        · omega
        · omega
    simpa [units_pos_iff] using hyu
  · left
    have hpos : 0 < x.units := units_pos_iff.2 (Bool.eq_false_iff.2 hx)
    split at h
    next hn =>
      split at h
      next hn' => exact eq_of_magnitude (hn.trans hn'.symm) (units_inj (by omega))
      next => omega
    next hn =>
      split at h
      next => omega
      next hn' =>
        have hsign := (Bool.eq_false_iff.2 hn).trans (Bool.eq_false_iff.2 hn').symm
        exact eq_of_magnitude hsign (units_inj (by omega))

theorem eq_zero_or_negZero (h : x.isZero) : x = zero ∨ x = negZero := by
  have hm : x.magnitude = 0 := by simpa [isZero] using h
  cases hs : x.isNegative with
  | true => exact .inr (eq_of_magnitude (hs.trans (by decide)) (hm.trans (by decide)))
  | false => exact .inl (eq_of_magnitude (hs.trans (by decide)) (hm.trans (by decide)))

end DocSql.Double
