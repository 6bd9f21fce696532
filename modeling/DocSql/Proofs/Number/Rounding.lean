import DocSql.Proofs.Number.Value
import Mathlib.Algebra.Order.Field.Basic
import Mathlib.Tactic.Positivity

/-!
Rounding a quotient to a binary64 number. The quotient is cut to a significand
of 53 bits, and the multiples of the last of them are the numbers around it;
all numbers below are further off. Main statement: `ofRatio_nearest`, no finite
number is nearer to a quotient than the one it is rounded to.
-/
namespace DocSql.Double

/-- The whole number nearest to `scaled / step`, ties to the even one. -/
def rounded (scaled step : Nat) : Nat :=
  if 2 * (scaled % step) < step then scaled / step
  else if step < 2 * (scaled % step) then scaled / step + 1
  else scaled / step + scaled / step % 2

def shiftOf (numerator denominator : Nat) : Nat :=
  (numerator * unitsPerOne / denominator).log2 - 52

/-- The units of the last bit of a quotient, times its denominator. -/
def stepOf (numerator denominator : Nat) : Nat :=
  denominator * pow2 (shiftOf numerator denominator)

variable {negative : Bool} {numerator denominator scaled step : Nat}

theorem ofRatio_eq (negative : Bool) (numerator denominator : Nat) :
    ofRatio negative numerator denominator =
      ofMagnitude negative (min infinityBits (shiftOf numerator denominator * pow2 52 +
        rounded (numerator * unitsPerOne) (stepOf numerator denominator))) := rfl

theorem rounded_bounds (scaled step : Nat) :
    scaled / step ≤ rounded scaled step ∧ rounded scaled step ≤ scaled / step + 1 := by
  unfold rounded
  split
  · omega
  · split
    · omega
    · omega

theorem rounded_nearest (hstep : 0 < step) (k : Nat) :
    ((rounded scaled step * step : Nat) - scaled : Int).natAbs ≤
      ((k * step : Nat) - scaled : Int).natAbs := by
  have hdivision := Nat.div_add_mod' scaled step
  have hremainder := Nat.mod_lt scaled hstep
  have hsides : k * step ≤ scaled / step * step ∨ (scaled / step + 1) * step ≤ k * step := by
    rcases Nat.lt_or_ge (scaled / step) k with h | h
    · exact .inr (Nat.mul_le_mul_right step h)
    · exact .inl (Nat.mul_le_mul_right step h)
  rw [Nat.succ_mul] at hsides
  unfold rounded
  split
  · omega
  · have hup : (scaled / step + 1) * step = scaled / step * step + step := Nat.succ_mul _ _
    split
    · omega
    · -- a tie is as near on both sides
      rcases Nat.mod_two_eq_zero_or_one (scaled / step) with h | h
      · rw [h, Nat.add_zero]
        omega
      · rw [h]
        omega

theorem stepOf_pos (hd : 0 < denominator) : 0 < stepOf numerator denominator :=
  Nat.mul_pos hd (pow2_pos _)

theorem quotient_isScaled (numerator denominator : Nat) :
    numerator * unitsPerOne / stepOf numerator denominator < pow2 53 ∧
      (shiftOf numerator denominator = 0 ∨
        pow2 52 ≤ numerator * unitsPerOne / stepOf numerator denominator) := by
  unfold stepOf shiftOf
  rw [← Nat.div_div_eq_div_mul]
  obtain ⟨whole, hwhole⟩ : ∃ whole, whole = numerator * unitsPerOne / denominator := ⟨_, rfl⟩
  rw [← hwhole]
  constructor
  · have hlt : whole < 2 ^ (whole.log2 + 1) := Nat.lt_log2_self
    have hle : 2 ^ (whole.log2 + 1) ≤ 2 ^ (53 + (whole.log2 - 52)) :=
      Nat.pow_le_pow_right (by decide) (by omega)
    rw [Nat.pow_add 2 53] at hle
    exact (Nat.div_lt_iff_lt_mul (pow2_pos _)).2 (hlt.trans_le hle)
  · by_cases hsmall : whole.log2 - 52 = 0
    · exact .inl hsmall
    · right
      have hne : whole ≠ 0 := by
        rintro rfl
        exact hsmall rfl
      have hle : 2 ^ whole.log2 ≤ whole := Nat.log2_self_le hne
      rw [show whole.log2 = 52 + (whole.log2 - 52) by omega, Nat.pow_add] at hle
      exact (Nat.le_div_iff_mul_le (pow2_pos _)).2 hle

theorem rounded_isScaled (numerator denominator : Nat) :
    IsScaled (shiftOf numerator denominator)
      (rounded (numerator * unitsPerOne) (stepOf numerator denominator)) := by
  obtain ⟨hlt, hfull⟩ := quotient_isScaled numerator denominator
  obtain ⟨hlow, hhigh⟩ :=
    rounded_bounds (numerator * unitsPerOne) (stepOf numerator denominator)
  exact ⟨hhigh.trans hlt, hfull.imp_right fun h => h.trans hlow⟩

theorem toNat_ofMagnitude {magnitude : Nat} (h : magnitude < signBit) :
    (ofMagnitude negative magnitude).bits.toNat =
      if negative then signBit + magnitude else magnitude := by
  rw [signBit_eq] at h
  refine UInt64.toNat_ofNat_of_lt' ?_
  rw [signBit_eq, UInt64.size]
  split
  · omega
  · omega

theorem magnitude_ofMagnitude {magnitude : Nat} (h : magnitude < signBit) :
    (ofMagnitude negative magnitude).magnitude = magnitude := by
  rw [Double.magnitude, toNat_ofMagnitude h]
  split
  · rw [Nat.add_mod_left, Nat.mod_eq_of_lt h]
  · rw [Nat.mod_eq_of_lt h]

theorem isNegative_ofMagnitude {magnitude : Nat} (h : magnitude < signBit) :
    (ofMagnitude negative magnitude).isNegative = negative := by
  rw [isNegative, toNat_ofMagnitude h]
  cases negative with
  | true => exact decide_eq_true (Nat.le_add_right _ _)
  | false => exact decide_eq_false (Nat.not_le.2 h)

theorem magnitude_ofRatio (negative : Bool) (numerator denominator : Nat) :
    (ofRatio negative numerator denominator).magnitude =
      min infinityBits (shiftOf numerator denominator * pow2 52 +
        rounded (numerator * unitsPerOne) (stepOf numerator denominator)) := by
  have hlt : infinityBits < signBit := by decide +kernel
  rw [ofRatio_eq, magnitude_ofMagnitude ((min_le_left _ _).trans_lt hlt)]

theorem isNegative_ofRatio (negative : Bool) (numerator denominator : Nat) :
    (ofRatio negative numerator denominator).isNegative = negative := by
  have hlt : infinityBits < signBit := by decide +kernel
  rw [ofRatio_eq, isNegative_ofMagnitude ((min_le_left _ _).trans_lt hlt)]

theorem units_ofRatio (h : (ofRatio negative numerator denominator).isFinite) :
    (ofRatio negative numerator denominator).units =
      rounded (numerator * unitsPerOne) (stepOf numerator denominator) *
        pow2 (shiftOf numerator denominator) := by
  have hmagnitude := magnitude_ofRatio negative numerator denominator
  simp only [isFinite, decide_eq_true_eq] at h
  rw [min_eq_right (by omega)] at hmagnitude
  change unitsOf (ofRatio negative numerator denominator).magnitude = _
  rw [hmagnitude, unitsOf_scaled (rounded_isScaled numerator denominator)]

theorem units_ofRatio_nearest (hd : 0 < denominator)
    (h : (ofRatio negative numerator denominator).isFinite) (y : Double) :
    (((ofRatio negative numerator denominator).units * denominator : Nat) -
        (numerator * unitsPerOne : Nat) : Int).natAbs ≤
      ((y.units * denominator : Nat) - (numerator * unitsPerOne : Nat) : Int).natAbs := by
  have hstep : 0 < stepOf numerator denominator := stepOf_pos hd
  have hmultiple (k : Nat) : k * pow2 (shiftOf numerator denominator) * denominator =
      k * stepOf numerator denominator := by
    unfold stepOf
    ring
  rw [units_ofRatio h, hmultiple]
  rcases dvd_units_or_lt y (shiftOf numerator denominator) with ⟨k, hk⟩ | ⟨hshift, hlt⟩
  · rw [hk, Nat.mul_comm (pow2 _) k, hmultiple]
    exact rounded_nearest hstep k
  · -- a number that is no multiple lies below one that is not above the quotient
    have hbelow : y.units * denominator < pow2 52 * stepOf numerator denominator := by
      rw [← hmultiple]
      exact Nat.mul_lt_mul_of_pos_right hlt hd
    have hle : pow2 52 * stepOf numerator denominator ≤ numerator * unitsPerOne := by
      have hfull := (quotient_isScaled numerator denominator).2.resolve_left hshift.ne'
      exact (Nat.le_div_iff_mul_le hstep).1 hfull
    refine (rounded_nearest hstep (pow2 52)).trans ?_
    generalize pow2 52 * stepOf numerator denominator = floor at hbelow hle ⊢
    generalize numerator * unitsPerOne = exact at hle ⊢
    generalize y.units * denominator = other at hbelow ⊢
    omega

theorem abs_value (x : Double) : |x.value| = x.units / unitsPerOne := by
  have hone : (0 : ℚ) < unitsPerOne := Nat.cast_pos.2 unitsPerOne_pos
  rw [value, abs_div, abs_of_pos hone, ← natAbs_signedUnits, Nat.cast_natAbs, Int.cast_abs]

theorem abs_units_sub (hd : 0 < denominator) (units : Nat) :
    |(units : ℚ) / unitsPerOne - numerator / denominator| =
      ((units * denominator : Nat) - (numerator * unitsPerOne : Nat) : Int).natAbs /
        (unitsPerOne * denominator) := by
  have hone : (0 : ℚ) < unitsPerOne := Nat.cast_pos.2 unitsPerOne_pos
  have hd' : (0 : ℚ) < denominator := Nat.cast_pos.2 hd
  rw [div_sub_div _ _ hone.ne' hd'.ne', abs_div, abs_of_pos (mul_pos hone hd'), Nat.cast_natAbs]
  push_cast
  rw [mul_comm (numerator : ℚ)]

def ratio (negative : Bool) (numerator denominator : Nat) : ℚ :=
  if negative then -(numerator / denominator) else numerator / denominator

theorem abs_ratio (negative : Bool) (numerator denominator : Nat) :
    |ratio negative numerator denominator| = numerator / denominator := by
  have hnonneg : (0 : ℚ) ≤ numerator / denominator := by positivity
  unfold ratio
  split
  · rw [abs_neg, abs_of_nonneg hnonneg]
  · rw [abs_of_nonneg hnonneg]

theorem value_ofRatio_sub (negative : Bool) (numerator denominator : Nat) :
    |(ofRatio negative numerator denominator).value - ratio negative numerator denominator| =
      |((ofRatio negative numerator denominator).units : ℚ) / unitsPerOne -
        numerator / denominator| := by
  unfold value signedUnits ratio
  rw [isNegative_ofRatio]
  cases negative with
  | true =>
    simp only [if_true, Int.cast_neg, Int.cast_natCast, neg_div]
    rw [← neg_sub', abs_neg]
  | false => simp only [Bool.false_eq_true, if_false, Int.cast_natCast]

theorem ofRatio_nearest (hd : 0 < denominator)
    (h : (ofRatio negative numerator denominator).isFinite) (y : Double) :
    |(ofRatio negative numerator denominator).value - ratio negative numerator denominator| ≤
      |y.value - ratio negative numerator denominator| := by
  calc |(ofRatio negative numerator denominator).value - ratio negative numerator denominator|
      ≤ |(y.units : ℚ) / unitsPerOne - numerator / denominator| := by
        rw [value_ofRatio_sub, abs_units_sub hd, abs_units_sub hd]
        exact div_le_div_of_nonneg_right (Nat.cast_le.2 (units_ofRatio_nearest hd h y))
          (mul_nonneg (Nat.cast_nonneg _) (Nat.cast_nonneg _))
    _ = |(|y.value| - |ratio negative numerator denominator|)| := by rw [abs_value, abs_ratio]
    _ ≤ |y.value - ratio negative numerator denominator| := abs_abs_sub_abs_le _ _

theorem ratio_int (n : Int) : ratio (decide (n < 0)) n.natAbs 1 = n := by
  unfold ratio
  rw [Nat.cast_natAbs, Nat.cast_one, div_one, Int.cast_abs]
  split
  next h =>
    have hneg : (n : ℚ) < 0 := Int.cast_lt_zero.2 (of_decide_eq_true h)
    rw [abs_of_neg hneg, neg_neg]
  next h =>
    have hnonneg : (0 : ℚ) ≤ n := Int.cast_nonneg (not_lt.1 fun hn => h (decide_eq_true hn))
    rw [abs_of_nonneg hnonneg]

theorem ofInt_nearest {n : Int} (h : (ofInt n).isFinite) (y : Double) :
    |(ofInt n).value - n| ≤ |y.value - n| := by
  have hnearest := ofRatio_nearest Nat.one_pos h y
  rwa [ratio_int] at hnearest

theorem pow2_units (n : Nat) : pow2 (n + 1074) = pow2 n * unitsPerOne := by
  unfold unitsPerOne
  exact pow2_add n 1074

theorem isFinite_ofRatio {bits : Nat} (hbits : bits ≤ 1023) (hd : 0 < denominator)
    (h : numerator < pow2 bits * denominator) :
    (ofRatio negative numerator denominator).isFinite := by
  have hshift : shiftOf numerator denominator ≤ 2044 := by
    unfold shiftOf
    by_cases hzero : numerator * unitsPerOne / denominator = 0
    · rw [hzero]
      decide
    · have hlt : numerator * unitsPerOne / denominator < pow2 (bits + 1074) := by
        rw [Nat.div_lt_iff_lt_mul hd, pow2_units]
        calc numerator * unitsPerOne < pow2 bits * denominator * unitsPerOne :=
              Nat.mul_lt_mul_of_pos_right h unitsPerOne_pos
          _ = pow2 bits * unitsPerOne * denominator := by ring
      have hlog := (Nat.log2_lt hzero).2 hlt
      omega
  have hle := (rounded_isScaled numerator denominator).le
  rw [isFinite, decide_eq_true_eq, magnitude_ofRatio]
  refine (min_le_right _ _).trans_lt ?_
  rw [pow2_53] at hle
  rw [infinityBits_eq, pow2_52]
  omega

theorem isFinite_ofInt {n : Int} {bits : Nat} (hbits : bits ≤ 1023) (h : n.natAbs < pow2 bits) :
    (ofInt n).isFinite :=
  isFinite_ofRatio hbits Nat.one_pos (by rwa [Nat.mul_one])

theorem exists_value_eq {shift significand : Nat} (h : IsScaled shift significand)
    (hshift : shift ≤ 2044) :
    ∃ x : Double, x.value = (significand * pow2 shift : Nat) / unitsPerOne := by
  have hlt : shift * pow2 52 + significand < signBit := by
    have hle := h.le
    rw [pow2_53] at hle
    rw [pow2_52, signBit_eq]
    omega
  refine ⟨ofMagnitude false (shift * pow2 52 + significand), ?_⟩
  have hunits : (ofMagnitude false (shift * pow2 52 + significand)).units =
      significand * pow2 shift := by
    change unitsOf (ofMagnitude false _).magnitude = _
    rw [magnitude_ofMagnitude hlt, unitsOf_scaled h]
  rw [value, signedUnits, isNegative_ofMagnitude hlt, if_neg Bool.false_ne_true, hunits,
    Int.cast_natCast]

theorem value_ofInt_eq_iff {n : Int} (hlow : (pow2 63 : Int) ≤ n) (hhigh : n < pow2 64) :
    (ofInt n).value = n ↔ 2048 ∣ n := by
  have hone : (unitsPerOne : ℚ) ≠ 0 := Nat.cast_ne_zero.2 unitsPerOne_pos.ne'
  obtain ⟨m, rfl⟩ := Int.eq_ofNat_of_zero_le ((Int.natCast_nonneg _).trans hlow)
  rw [Int.ofNat_le, pow2_63] at hlow
  rw [Int.ofNat_lt, pow2_64] at hhigh
  constructor
  · intro h
    have hunits : (ofInt m).units = m * unitsPerOne := by
      have habs := abs_value (ofInt m)
      rw [h, Int.cast_natCast, Nat.abs_cast, eq_div_iff hone] at habs
      exact_mod_cast habs.symm
    rcases dvd_units_or_lt (ofInt m) (11 + 1074) with hdvd | ⟨-, hlt⟩
    · rw [hunits, pow2_units] at hdvd
      have hdvd' : pow2 11 ∣ m := Nat.dvd_of_mul_dvd_mul_right unitsPerOne_pos hdvd
      rw [pow2_11] at hdvd'
      omega
    · rw [hunits, pow2_units, ← Nat.mul_assoc] at hlt
      have hsmall := Nat.lt_of_mul_lt_mul_right hlt
      rw [← pow2_add, show 52 + 11 = 63 from rfl, pow2_63] at hsmall
      omega
  · intro h
    obtain ⟨significand, rfl⟩ : 2048 ∣ m := by omega
    have hscaled : IsScaled (11 + 1074) significand := by
      constructor
      · rw [pow2_53]
        omega
      · right
        rw [pow2_52]
        omega
    obtain ⟨y, hy⟩ := exists_value_eq hscaled (by decide)
    have hvalue : y.value = (2048 * significand : Nat) := by
      rw [hy, pow2_units, pow2_11, ← Nat.mul_assoc, Nat.cast_mul,
        mul_div_cancel_right₀ _ hone, Nat.mul_comm]
    have hfinite : (ofInt (2048 * significand : Nat)).isFinite := by
      refine isFinite_ofInt (show 64 ≤ 1023 by decide) ?_
      rwa [Int.natAbs_natCast, pow2_64]
    have hnearest := ofInt_nearest hfinite y
    rw [hvalue, Int.cast_natCast, sub_self, abs_zero] at hnearest
    rw [Int.cast_natCast]
    exact sub_eq_zero.1 (abs_nonpos_iff.1 hnearest)

end DocSql.Double
