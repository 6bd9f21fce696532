import DocSql.Proofs.Number.Rounding
import DocSql.Storage.Codec

/-!
Numbers in columns. A whole number of 64 bits with a sign stays whole and all
others become binary64 numbers, of which the small whole ones are shown whole
again. So a document gets its number back, but for the whole numbers that need
the 64th bit: of these it gets the binary64 number nearest to it. Main
statement: `Datum.number_reread`.
-/
namespace DocSql

namespace Number

/-- The numbers of JSON texts: whole ones of 64 bits, with a sign or without,
and finite binary64 numbers. -/
inductive IsJson : Number → Prop
  | int {n : Int} (hlow : minInt64 ≤ n) (hhigh : n < pow2 64) : IsJson (int n)
  | float {x : Double} (h : x.isFinite) : IsJson (float x)

def value : Number → ℚ
  | int n => n
  | float x => x.value

def IsHeld : Number → Prop
  | int n => fitsInt64 n ∨ 2048 ∣ n
  | float _ => True

theorem fitsInt64_iff {n : Int} : fitsInt64 n ↔ minInt64 ≤ n ∧ n ≤ maxInt64 := by
  simp [fitsInt64]

end Number

namespace Double

variable {x : Double}

theorem value_of_isIntegral (h : x.isIntegral) :
    ∃ n : Int, x.toInt? = some n ∧ x.value = n ∧ x.units = n.natAbs * unitsPerOne := by
  have hone : (unitsPerOne : ℚ) ≠ 0 := Nat.cast_ne_zero.2 unitsPerOne_pos.ne'
  simp only [isIntegral, Bool.and_eq_true, beq_iff_eq] at h
  obtain ⟨hfinite, hwhole⟩ := h
  obtain ⟨k, hk⟩ := Nat.dvd_of_mod_eq_zero hwhole
  have hquotient : x.units / unitsPerOne = k := by
    rw [hk, Nat.mul_div_cancel_left _ unitsPerOne_pos]
  refine ⟨if x.isNegative then -(k : Int) else k, ?_, ?_, ?_⟩
  · simp [toInt?, hfinite, hquotient]
  · unfold value signedUnits
    rw [hk]
    cases x.isNegative with
    | true =>
      simp only [if_true, Int.cast_neg, Nat.cast_mul, Int.cast_mul, Int.cast_natCast, neg_div,
        mul_div_cancel_left₀ _ hone]
    | false =>
      simp only [Bool.false_eq_true, if_false, Nat.cast_mul, Int.cast_mul, Int.cast_natCast,
        mul_div_cancel_left₀ _ hone]
  · rw [hk, Nat.mul_comm]
    cases x.isNegative with
    | true => simp
    | false => simp

theorem toInt?_of_value {n : Int} (hx : x.isFinite) (h : x.value = n) : x.toInt? = some n := by
  have hone : (unitsPerOne : ℚ) ≠ 0 := Nat.cast_ne_zero.2 unitsPerOne_pos.ne'
  have hunits : x.signedUnits = n * unitsPerOne := by
    rw [value, div_eq_iff hone] at h
    exact_mod_cast h
  have hwhole : x.units = n.natAbs * unitsPerOne := by
    rw [← natAbs_signedUnits, hunits, Int.natAbs_mul, Int.natAbs_natCast]
  have hintegral : x.isIntegral := by
    rw [isIntegral, hx, hwhole, Nat.mul_mod_left]
    rfl
  obtain ⟨m, hm, hvalue, -⟩ := value_of_isIntegral hintegral
  rw [hm, ← Int.cast_inj.1 (hvalue.symm.trans h)]

end Double

namespace Datum

open Number (minInt64 maxInt64 fitsInt64)

theorem jsonNumber_value {x : Double} (h : x.isFinite) :
    ∃ shown : Number, jsonNumber x = .num shown ∧ shown.IsJson ∧ shown.value = x.value := by
  unfold jsonNumber
  split
  next hsmall =>
    rw [Bool.and_eq_true, decide_eq_true_eq] at hsmall
    obtain ⟨hintegral, hlt⟩ := hsmall
    obtain ⟨n, hn, hvalue, hunits⟩ := Double.value_of_isIntegral hintegral
    rw [hunits] at hlt
    have hbound := Nat.lt_of_mul_lt_mul_right hlt
    rw [Double.pow2_53] at hbound
    have hclamp : x.clampTo minInt64 maxInt64 = n := by
      simp only [Double.clampTo, hn, minInt64, maxInt64]
      omega
    rw [hclamp]
    refine ⟨.int n, rfl, .int ?_ ?_, hvalue.symm⟩
    · rw [minInt64]
      omega
    · rw [Double.pow2_64]
      omega
  next =>
    refine ⟨.float x, ?_, .float h, rfl⟩
    rw [Json.ofDouble, if_pos h]

theorem ofNumber_reread {n : Number} (hn : n.IsJson) :
    ∃ shown : Number, (ofNumber n).toDocument = .num shown ∧ shown.IsJson ∧
      (shown.value = n.value ↔ n.IsHeld) ∧
      ∀ y : Double, y.isFinite → |shown.value - n.value| ≤ |y.value - n.value| := by
  have hsame {shown n : Number} (h : shown.value = n.value) (y : Double) :
      |shown.value - n.value| ≤ |y.value - n.value| := by
    rw [h, sub_self, abs_zero]
    exact abs_nonneg _
  cases hn with
  | @int n hlow hhigh =>
    cases hfits : fitsInt64 n with
    | true =>
      have hstored : ofNumber (.int n) = .int n := by simp [ofNumber, Number.toInt64?, hfits]
      rw [hstored]
      exact ⟨.int n, rfl, .int hlow hhigh, iff_of_true rfl (.inl hfits), fun y _ => hsame rfl y⟩
    | false =>
      have hstored : ofNumber (.int n) = .float (.ofInt n) := by
        simp [ofNumber, Number.toInt64?, hfits, Number.toDouble]
      have hlarge : (pow2 63 : Int) ≤ n := by
        have hnot : ¬ (minInt64 ≤ n ∧ n ≤ maxInt64) := by simp [← Number.fitsInt64_iff, hfits]
        rw [maxInt64] at hnot
        rw [Double.pow2_63]
        omega
      have hfinite : (Double.ofInt n).isFinite := by
        refine Double.isFinite_ofInt (show 64 ≤ 1023 by decide) ?_
        rw [Double.pow2_64] at hhigh ⊢
        rw [Double.pow2_63] at hlarge
        omega
      obtain ⟨shown, hshown, hjson, hvalue⟩ := jsonNumber_value hfinite
      rw [hstored]
      refine ⟨shown, hshown, hjson, ?_, ?_⟩
      · rw [hvalue]
        simp only [Number.value, Number.IsHeld, hfits, Bool.false_eq_true, false_or]
        exact Double.value_ofInt_eq_iff hlarge hhigh
      · intro y _
        rw [hvalue]
        exact Double.ofInt_nearest hfinite y
  | @float x hfinite =>
    obtain ⟨shown, hshown, hjson, hvalue⟩ := jsonNumber_value hfinite
    exact ⟨shown, hshown, hjson, iff_of_true hvalue trivial, fun y _ => hsame hvalue y⟩

/-- A number that is written to a column of numbers is read as a number again.
It is the one that was written, unless this needs the 64th bit and is no
multiple of 2048; and no binary64 number is nearer to the one written. Only the
permission columns, which are lists whatever is declared, refuse numbers. -/
theorem number_reread (name : String) {n : Number} (hn : n.IsJson) :
    if Schema.isPermissionField name then
      encode name (some .number) (.num n) =
        .error (.invalidQuery ("field '" ++ name ++ "' expects an array of strings"))
    else ∃ raw shown, encode name (some .number) (.num n) = .ok raw ∧
      raw.decode .number = .ok (.num shown) ∧ shown.IsJson ∧
      (shown.value = n.value ↔ n.IsHeld) ∧
      ∀ y : Double, y.isFinite → |shown.value - n.value| ≤ |y.value - n.value| := by
  obtain ⟨shown, hshown, hjson, hheld, hnearest⟩ := ofNumber_reread hn
  have hdecode : (ofNumber n).decode .number = .ok (.num shown) := by
    rw [← hshown]
    unfold ofNumber
    cases n.toInt64? with
    | some _ => rfl
    | none => rfl
  have hnull : (Json.num n).isNull = false := rfl
  unfold encode
  simp only [hnull, Bool.false_eq_true, if_false]
  split
  next => rfl
  next =>
    exact ⟨ofNumber n, shown, rfl, hdecode, hjson, hheld, hnearest⟩

/-- The smallest number that needs the 64th bit is a power of two. -/
theorem unsigned_power_reread :
    (Number.int 9223372036854775808).IsJson ∧
    ∃ raw shown, encode "score" (some .number) (.int 9223372036854775808) = .ok raw ∧
      raw.decode .number = .ok (.num shown) ∧ shown.IsJson ∧
      shown.value = (Number.int 9223372036854775808).value := by
  have hn : (Number.int 9223372036854775808).IsJson := .int (by decide) (by decide)
  obtain ⟨raw, shown, hencode, hdecode, hjson, hheld, -⟩ := number_reread "score" hn
  exact ⟨hn, raw, shown, hencode, hdecode, hjson, hheld.2 (.inr (by decide))⟩

/-- The number after it is stored as this power, and shown as it. -/
theorem unsigned_successor_rounded :
    encode "score" (some .number) (.int 9223372036854775809) =
      .ok (.float (.ofInt 9223372036854775808)) ∧
    decode .number (.float (.ofInt 9223372036854775808)) =
      .ok (.float (.ofInt 9223372036854775808)) ∧
    (Number.float (.ofInt 9223372036854775808)).value ≠
      (Number.int 9223372036854775809).value := by
  have hrounded : Double.ofInt 9223372036854775809 = Double.ofInt 9223372036854775808 := by
    decide +kernel
  refine ⟨?_, ?_, ?_⟩
  · rw [← hrounded]
    rfl
  · have hlarge : jsonNumber (.ofInt 9223372036854775808) =
        .ofDouble (.ofInt 9223372036854775808) := if_neg (by decide +kernel)
    have hfinite : (Double.ofInt 9223372036854775808).isFinite := by decide +kernel
    change Except.ok (jsonNumber _) = _
    rw [hlarge, Json.ofDouble, if_pos hfinite]
  · have hvalue : (Double.ofInt 9223372036854775808).value = (9223372036854775808 : Int) :=
      (Double.value_ofInt_eq_iff (by decide) (by decide)).2 (by decide)
    change (Double.ofInt 9223372036854775808).value ≠ (9223372036854775809 : Int)
    rw [hvalue]
    norm_num

end Datum
end DocSql
