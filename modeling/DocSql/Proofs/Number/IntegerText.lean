import DocSql.Number.Basic

/-!
Whole numbers in text. A text is read as a number of 64 bits just where it is
written as one and its value has that size.
-/
namespace DocSql.Number

open Double (digitsValue splitSign)

/-- A whole number in decimal digits, with or without a sign. -/
inductive WritesInt : List Char → Int → Prop
  | unsigned {ds : List Char} (hne : ds ≠ []) (hd : ∀ d ∈ ds, d.isDigit) :
    WritesInt ds (digitsValue ds)
  | plus {ds : List Char} (hne : ds ≠ []) (hd : ∀ d ∈ ds, d.isDigit) :
    WritesInt ('+' :: ds) (digitsValue ds)
  | minus {ds : List Char} (hne : ds ≠ []) (hd : ∀ d ∈ ds, d.isDigit) :
    WritesInt ('-' :: ds) (-(digitsValue ds : Int))

def signedValue (negative : Bool) (ds : List Char) : Int :=
  if negative then -(digitsValue ds : Int) else digitsValue ds

variable {cs ds : List Char} {n : Int}

theorem splitSign_digits (hd : ∀ d ∈ ds, d.isDigit) : splitSign ds = (false, ds) := by
  unfold splitSign
  split
  next => exact absurd (hd '-' List.mem_cons_self) (by decide)
  next => exact absurd (hd '+' List.mem_cons_self) (by decide)
  next => rfl

theorem WritesInt.of_splitSign {negative : Bool} (h : splitSign cs = (negative, ds)) (hne : ds ≠ [])
    (hd : ∀ d ∈ ds, d.isDigit) : WritesInt cs (signedValue negative ds) := by
  unfold splitSign at h
  split at h
  next =>
    cases h
    exact .minus hne hd
  next =>
    cases h
    exact .plus hne hd
  next =>
    cases h
    exact .unsigned hne hd

theorem WritesInt.splitSign_eq (h : WritesInt cs n) : ∃ negative ds,
    splitSign cs = (negative, ds) ∧ ds ≠ [] ∧ (∀ d ∈ ds, d.isDigit) ∧ n = signedValue negative ds := by
  cases h with
  | unsigned hne hd => exact ⟨false, _, splitSign_digits hd, hne, hd, rfl⟩
  | plus hne hd => exact ⟨false, _, rfl, hne, hd, rfl⟩
  | minus hne hd => exact ⟨true, _, rfl, hne, hd, rfl⟩

theorem int64OfText?_eq_some_iff {text : String} :
    int64OfText? text = some n ↔ WritesInt text.toList n ∧ fitsInt64 n = true := by
  have hread : ∀ negative ds, splitSign text.toList = (negative, ds) → (int64OfText? text = some n ↔
      (ds ≠ [] ∧ ∀ d ∈ ds, d.isDigit) ∧ n = signedValue negative ds ∧ fitsInt64 n = true) := by
    intro negative ds hs
    unfold int64OfText?
    rw [hs]
    change (if _ then none else if fitsInt64 (signedValue negative ds) then
      some (signedValue negative ds) else none) = some n ↔ _
    simp only [Option.ite_none_left_eq_some, Bool.not_eq_true, Bool.or_eq_false_iff,
      List.isEmpty_eq_false_iff, Bool.not_eq_false', List.all_eq_true, Option.ite_none_right_eq_some,
      Option.some_inj]
    refine and_congr_right fun _ => ⟨?_, ?_⟩
    · rintro ⟨hfits, rfl⟩
      exact ⟨rfl, hfits⟩
    · rintro ⟨rfl, hfits⟩
      exact ⟨hfits, rfl⟩
  constructor
  · intro h
    obtain ⟨⟨hne, hd⟩, rfl, hfits⟩ := (hread _ _ rfl).1 h
    exact ⟨.of_splitSign rfl hne hd, hfits⟩
  · rintro ⟨hwrites, hfits⟩
    obtain ⟨negative, ds, hs, hne, hd, hn⟩ := hwrites.splitSign_eq
    exact (hread negative ds hs).2 ⟨⟨hne, hd⟩, hn, hfits⟩

end DocSql.Number
