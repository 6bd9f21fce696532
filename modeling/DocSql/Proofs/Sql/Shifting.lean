import DocSql.Proofs.Sql.Binding

/-!
Moving placeholders. A text numbered from a later position on is the text
numbered from an earlier one with every placeholder moved up by the difference,
and so are the orderings, which point at the same positions. What is moved is
found by reading the text alone, so nothing else may read as a placeholder and
no digit may stand behind one.
-/
namespace DocSql.Sql

/-- Moves the placeholders outside quotes up. The digits of a placeholder are
left out where `reading`, as its new number is written by then. -/
def shiftedFrom (offset : Nat) (inside : Option Char) (reading : Bool) : List Char → List Char
  | [] => []
  | c :: rest =>
    if reading ∧ c.isDigit then shiftedFrom offset inside true rest
    else if inside = none ∧ c = '$' ∧ startsWithDigit rest then
      (placeholder (Nat.ofDigitChars 10 (rest.takeWhile Char.isDigit) 0 + offset)).toList ++
        shiftedFrom offset none true rest
    else c :: shiftedFrom offset (quoteAfter inside c) false rest

def shifted (offset : Nat) (sql : String) : String :=
  String.ofList (shiftedFrom offset none false sql.toList)

example : shifted 10 "\"a$1\" = $1 AND b IN ($2, $13)" = "\"a$1\" = $11 AND b IN ($12, $23)" := by
  decide +kernel

theorem eq_nil_of_ofDigitChars {n : Nat} (hn : 0 < n) {more : List Char}
    (h : Nat.ofDigitChars 10 (Nat.toDigits 10 n ++ more) 0 = n) : more = [] := by
  rw [Nat.ofDigitChars_append, Nat.ofDigitChars_ten_toDigits,
    Nat.ofDigitChars_eq_ofDigitChars_zero] at h
  cases more with
  | nil => rfl
  | cons d digits =>
    have hlarge : 10 * n ≤ 10 ^ (d :: digits).length * n := by
      refine Nat.mul_le_mul_right n ?_
      rw [List.length_cons, Nat.pow_succ]
      exact Nat.le_mul_of_pos_left 10 (Nat.pow_pos (by decide))
    omega

theorem markerCount_le_numbers (inside : Option Char) (next : Nat) (template : List Char) :
    markerCount inside template ≤ (numbersIn inside (numbered inside next template)).length := by
  induction template generalizing inside next with
  | nil => exact Nat.le_refl _
  | cons c rest ih =>
    unfold markerCount numbered
    split
    next h =>
      obtain ⟨rfl, rfl⟩ := h
      rw [numbersIn_placeholder, List.length_cons, Nat.add_comm]
      exact Nat.succ_le_succ (ih none (next + 1))
    next h =>
      rw [Nat.zero_add, numbersIn]
      split
      next hplaceholder =>
        obtain ⟨rfl, rfl, -⟩ := hplaceholder
        exact Nat.le_succ_of_le (ih none next)
      next => exact ih _ next

theorem shiftedFrom_digits (offset : Nat) {digits : List Char} (h : ∀ c ∈ digits, c.isDigit)
    (rest : List Char) :
    shiftedFrom offset none true (digits ++ rest) = shiftedFrom offset none true rest := by
  induction digits with
  | nil => rfl
  | cons d digits ih =>
    rw [List.cons_append, shiftedFrom, if_pos ⟨rfl, h d List.mem_cons_self⟩,
      ih fun c hc => h c (List.mem_cons_of_mem d hc)]

theorem shiftedFrom_reading (offset : Nat) {rest : List Char} (h : rest.takeWhile Char.isDigit = []) :
    shiftedFrom offset none true rest = shiftedFrom offset none false rest := by
  cases rest with
  | nil => rfl
  | cons c rest =>
    have hc : ¬c.isDigit := fun hc => by simp [hc] at h
    simp [shiftedFrom, hc]

theorem shiftedFrom_placeholder (offset n : Nat) {rest : List Char}
    (h : rest.takeWhile Char.isDigit = []) :
    shiftedFrom offset none false ((placeholder n).toList ++ rest) =
      (placeholder (n + offset)).toList ++ shiftedFrom offset none false rest := by
  rw [placeholder_toList n, List.cons_append, shiftedFrom, if_neg (by simp),
    if_pos ⟨rfl, rfl, startsWithDigit_digits n rest⟩, takeWhile_digits, h, List.append_nil,
    Nat.ofDigitChars_ten_toDigits, shiftedFrom_digits offset (isDigit_toDigits n),
    shiftedFrom_reading offset h]

/-- If the text shows just the placeholders of its markers, then reading it
finds each of them where a marker stood. -/
theorem shiftedFrom_numbered (offset : Nat) {inside : Option Char} {next : Nat}
    {template : List Char} (hn : 0 < next)
    (h : numbersIn inside (numbered inside next template) =
      List.range' next (markerCount inside template)) :
    shiftedFrom offset inside false (numbered inside next template) =
      numbered inside (next + offset) template := by
  induction template generalizing inside next with
  | nil => rfl
  | cons c rest ih =>
    unfold markerCount numbered at h
    unfold numbered
    split at h
    next hmark =>
      obtain ⟨rfl, rfl⟩ := hmark
      rw [quoteAfter_of_mark (.inl rfl), numbersIn_placeholder, Nat.add_comm 1,
        List.range'_succ] at h
      obtain ⟨hnumber, hrest⟩ := List.cons.inj h
      rw [if_pos ⟨rfl, rfl⟩, if_pos ⟨rfl, rfl⟩,
        shiftedFrom_placeholder offset next (eq_nil_of_ofDigitChars hn hnumber),
        ih (Nat.succ_pos next) hrest, Nat.add_right_comm]
    next hmark =>
      rw [Nat.zero_add, numbersIn] at h
      rw [if_neg hmark, if_neg hmark, shiftedFrom, if_neg (by simp)]
      split at h
      next hplaceholder =>
        -- such a placeholder would come on top of those of the markers
        obtain ⟨rfl, rfl, -⟩ := hplaceholder
        rw [quoteAfter_of_mark (.inr rfl)] at h
        have hlength := congrArg List.length h
        have hle := markerCount_le_numbers none next rest
        rw [List.length_cons, List.length_range'] at hlength
        omega
      next hplaceholder => rw [if_neg hplaceholder, ih hn h]

theorem Aligned.shifted_number {template : String} {n : Nat} (h : Aligned template.toList n)
    {next : Nat} (hn : 0 < next) (offset : Nat) :
    shifted offset (number next template) = number (next + offset) template := by
  have hnumbers := (h.shows next).numbers
  rw [← h.markers] at hnumbers
  rw [shifted, number_toList, shiftedFrom_numbered offset hn hnumbers, number]

theorem Aligned.number_append {template joint : String} {n : Nat} (h : Aligned template.toList n)
    (hj : isPlain joint.toList) (next : Nat) :
    number next template ++ joint = number next (template ++ joint) := by
  refine String.toList_inj.1 ?_
  rw [String.toList_append, number_toList, number_toList, String.toList_append,
    h.numbered_append, numbered_plain hj]

namespace Predicate

mutual

theorem orderings_shifted {next : Nat} (hn : 0 < next) (offset : Nat) : ∀ {p : Predicate},
    p.IsPlain → p.orderings (next + offset) = (p.orderings next).map (shifted offset)
  | nearest distance _, h => by
    have haligned := Expr.aligned h
    have hall : Aligned (distance.template ++ " ASC").toList distance.params.length := by
      rw [String.toList_append]
      exact haligned.closedBy rfl
    have hj : isPlain " ASC".toList := rfl
    simp only [orderings, List.map_cons, List.map_nil, haligned.number_append hj,
      hall.shifted_number hn]
  | not p, h | paren p, h => by
    simp only [orderings]
    exact orderings_shifted hn offset (p := p) h
  | and ps, h | or ps, h => by
    simp only [orderings]
    exact orderingsAll_shifted hn offset h
  | always, _ | isNull _, _ | isNotNull _, _ | holds _, _ | compare _ _ _, _ | isIn _ _, _
  | notIn _ _, _ => rfl

theorem orderingsAll_shifted {next : Nat} (hn : 0 < next) (offset : Nat) :
    ∀ {ps : List Predicate}, AllPlain ps →
      orderingsAll (next + offset) ps = (orderingsAll next ps).map (shifted offset)
  | [], _ => rfl
  | p :: rest, h => by
    simp only [orderingsAll, List.map_append]
    rw [orderings_shifted hn offset h.1, Nat.add_right_comm,
      orderingsAll_shifted (Nat.add_pos_left hn p.params.length) offset h.2]

end

end Predicate

namespace Filter

def shifted (offset : Nat) (filter : Filter) : Filter :=
  ⟨Sql.shifted offset filter.pattern, filter.sorts.map (Sql.shifted offset)⟩

theorem shifted_number {conjuncts : List Predicate} (h : ∀ p ∈ conjuncts, p.IsPlain) {next : Nat}
    (hn : 0 < next) (offset : Nat) :
    shifted offset ⟨patternOf next conjuncts, Predicate.orderingsAll next conjuncts⟩ =
      ⟨patternOf (next + offset) conjuncts, Predicate.orderingsAll (next + offset) conjuncts⟩ := by
  have hall := Predicate.allPlain_iff.2 h
  rw [shifted, Predicate.orderingsAll_shifted hn offset hall]
  cases conjuncts with
  | nil => rfl
  | cons p rest =>
    have hplain : (Predicate.and (p :: rest)).IsPlain := by
      simpa only [Predicate.IsPlain] using hall
    simp only [patternOf, List.isEmpty_cons, Bool.false_eq_true, if_false,
      (Predicate.aligned hplain).shifted_number hn]

end Filter
end DocSql.Sql
