import DocSql.Proofs.Pattern.Literals

/-!
Patterns that are taken for anchored literals. An anchored run is looked for
anywhere in an anchored pattern, so what stands around it goes unnoticed. Main
statement: `Pattern.isLiteralStart_iff`.
-/
namespace DocSql
namespace Text

/-- Two occurrences of a mark never overlap, for its last character is nowhere
else in it. -/
def IsMark (mark : List Char) : Prop := ∃ start last, mark = start ++ [last] ∧ last ∉ start

variable {mark text after : List Char}

theorem IsMark.ne_nil (hm : IsMark mark) : mark ≠ [] := by
  obtain ⟨start, last, rfl, -⟩ := hm
  exact List.append_ne_nil_of_right_ne_nil start (List.cons_ne_nil last [])

theorem infix_of_infix_append {start more : List Char} {last : Char} (hl : last ∉ more)
    (h : start ++ [last] <:+: text ++ more) : start ++ [last] <:+: text := by
  induction more using List.reverseRecOn with
  | nil => rwa [List.append_nil] at h
  | append_singleton more c ih =>
    rw [List.mem_append, List.mem_singleton, not_or] at hl
    rw [← List.append_assoc, List.infix_concat_iff] at h
    rcases h with h | h
    · have hlast := ((List.suffix_append_inj_of_length_eq (by rfl)).1 h).2
      exact absurd (List.cons.inj hlast).1 hl.2
    · exact ih hl.1 h

theorem IsMark.infix_of_prefix (hm : IsMark mark) {c : Char} {before : List Char}
    (h : mark <+: c :: before ++ mark ++ after) : mark <:+: c :: before := by
  obtain ⟨start, last, rfl, hl⟩ := hm
  have hstart : c :: before ++ start <+: c :: before ++ (start ++ [last]) ++ after :=
    ⟨[last] ++ after, by simp only [List.append_assoc]⟩
  have hlength : (start ++ [last]).length ≤ (c :: before ++ start).length := by
    simp only [List.length_append, List.length_cons, List.length_nil]
    omega
  exact infix_of_infix_append hl (List.prefix_of_prefix_length_le h hstart hlength).isInfix

theorem after?_eq_some_iff (hm : IsMark mark) :
    after? mark text = some after ↔
      ∃ before, ¬ mark <:+: before ∧ text = before ++ mark ++ after := by
  have hempty : ¬ mark <:+: [] := fun h => hm.ne_nil (List.eq_nil_of_infix_nil h)
  induction text with
  | nil =>
    have hnil : mark.isEmpty = false := List.isEmpty_eq_false_iff.2 hm.ne_nil
    simp [after?, hnil, hm.ne_nil]
  | cons c rest ih =>
    rw [after?]
    split
    next h =>
      obtain ⟨more, hmore⟩ := List.isPrefixOf_iff_prefix.1 h
      rw [← hmore, List.drop_left, Option.some_inj]
      constructor
      · rintro rfl
        exact ⟨[], hempty, rfl⟩
      · rintro ⟨before, hfirst, hwhole⟩
        cases before with
        | nil => exact List.append_cancel_left hwhole
        | cons d before => exact absurd (hm.infix_of_prefix ⟨more, hwhole⟩) hfirst
    next h =>
      refine ih.trans ?_
      constructor
      · rintro ⟨before, hfirst, rfl⟩
        refine ⟨c :: before, fun hc => ?_, rfl⟩
        rcases List.infix_cons_iff.1 hc with hp | hi
        · exact h (List.isPrefixOf_iff_prefix.2
            (hp.trans ⟨mark ++ after, (List.append_assoc _ _ _).symm⟩))
        · exact hfirst hi
      · rintro ⟨before, hfirst, hwhole⟩
        cases before with
        | nil => exact absurd (List.isPrefixOf_iff_prefix.2 ⟨after, hwhole.symm⟩) h
        | cons d before =>
          obtain ⟨rfl, hrest⟩ := List.cons.inj hwhole
          exact ⟨before, fun hi => hfirst (List.infix_cons hi), hrest⟩

end Text

namespace Pattern

open Text (IsMark after? after?_eq_some_iff)

def anchorMark : List Char := '^' :: quoteMark

theorem anchorMark_isMark : IsMark anchorMark := ⟨['^', '\\'], 'Q', rfl, by decide⟩

theorem endMark_isMark : IsMark endMark := ⟨['\\'], 'E', rfl, by decide⟩

def quotedStart (text : List Char) : List Char := anchorMark ++ text ++ endMark

def IsQuotedStart (pattern : List Char) : Prop :=
  ∃ text, ¬ endMark <:+: text ∧ pattern = quotedStart text

/-- The first anchored run of an anchored pattern, up to its first end mark. -/
structure FirstRun (pattern before text after : List Char) : Prop where
  anchored : pattern.head? = some '^'
  first : ¬ anchorMark <:+: before
  text_open : ¬ endMark <:+: text
  whole : pattern = before ++ quotedStart text ++ after

def toJson (pattern : List Char) : Json := .obj [("$regex", .str (.ofList pattern))]

variable {pattern before text after : List Char}

@[simp] theorem ofJson?_toJson (pattern : List Char) : ofJson? (toJson pattern) = some pattern :=
  congrArg some String.toList_ofList

theorem append_quotedStart (before text after : List Char) :
    before ++ quotedStart text ++ after = before ++ anchorMark ++ (text ++ endMark ++ after) := by
  simp only [quotedStart, List.append_assoc]

theorem isLiteralStart_eq (pattern : List Char) : isLiteralStart pattern =
    (pattern.head? == some '^' &&
      (after? anchorMark pattern).any fun rest => (after? endMark rest).isSome) := by
  rw [isLiteralStart, anchorMark, quoteMark]
  cases after? ['^', '\\', 'Q'] pattern with
  | _ => rfl

theorem isLiteralStart_eq_true_iff : isLiteralStart pattern = true ↔
    pattern.head? = some '^' ∧ ∃ rest, after? anchorMark pattern = some rest ∧
      ∃ after, after? endMark rest = some after := by
  simp only [isLiteralStart_eq, Bool.and_eq_true, beq_iff_eq, Option.any_eq_true,
    Option.isSome_iff_exists]

namespace FirstRun

theorem after?_anchorMark (h : FirstRun pattern before text after) :
    after? anchorMark pattern = some (text ++ endMark ++ after) :=
  (after?_eq_some_iff anchorMark_isMark).2
    ⟨before, h.first, h.whole.trans (append_quotedStart before text after)⟩

theorem after?_endMark (h : FirstRun pattern before text after) :
    after? endMark (text ++ endMark ++ after) = some after :=
  (after?_eq_some_iff endMark_isMark).2 ⟨text, h.text_open, rfl⟩

theorem unique {before' text' after' : List Char} (h : FirstRun pattern before text after)
    (h' : FirstRun pattern before' text' after') :
    before = before' ∧ text = text' ∧ after = after' := by
  have hrest : text ++ endMark ++ after = text' ++ endMark ++ after' :=
    Option.some.inj (h.after?_anchorMark.symm.trans h'.after?_anchorMark)
  have hafter : after = after' := by
    have hend := h.after?_endMark
    rw [hrest, h'.after?_endMark] at hend
    exact (Option.some.inj hend).symm
  subst hafter
  have htext : text = text' := List.append_cancel_right (List.append_cancel_right hrest)
  subst htext
  have hwhole := h.whole.symm.trans h'.whole
  exact ⟨List.append_cancel_right (List.append_cancel_right hwhole), rfl, rfl⟩

theorem ofQuotedStart (ht : ¬ endMark <:+: text) : FirstRun (quotedStart text) [] text [] where
  anchored := rfl
  first := fun h => anchorMark_isMark.ne_nil (List.eq_nil_of_infix_nil h)
  text_open := ht
  whole := (List.append_nil _).symm

theorem isQuotedStart_iff (h : FirstRun pattern before text after) :
    IsQuotedStart pattern ↔ before = [] ∧ after = [] := by
  constructor
  · rintro ⟨other, hother, rfl⟩
    obtain ⟨hbefore, -, hafter⟩ := h.unique (ofQuotedStart hother)
    exact ⟨hbefore, hafter⟩
  · rintro ⟨rfl, rfl⟩
    exact ⟨text, h.text_open, h.whole.trans (List.append_nil _)⟩

end FirstRun

theorem likeStart_toJson (h : pattern.head? = some '^') :
    likeStart (toJson pattern) = .ok (.str (.ofList (literalize pattern.tail ++ ['%']))) := by
  obtain ⟨rest, rfl⟩ := List.head?_eq_some_iff.1 h
  rw [likeStart, ofJson?_toJson]
  rfl

theorem likeStarts_single (h : pattern.head? = some '^') :
    likeStarts [toJson pattern] = .ok [.str (.ofList (literalize pattern.tail ++ ['%']))] := by
  change [toJson pattern].mapM likeStart = _
  rw [List.mapM_cons, likeStart_toJson h]
  rfl

/-- A pattern counts as an anchored literal if and only if it is anchored and holds
an anchored run somewhere. All anchored literals do, and of the patterns that do
only those with nothing before the run and nothing behind it are anchored literals.
What stands there goes into the LIKE pattern. -/
theorem isLiteralStart_iff (pattern : List Char) :
    (isLiteralStart pattern = true ↔ ∃ before text after, FirstRun pattern before text after) ∧
    (IsQuotedStart pattern → isLiteralStart pattern = true) ∧
    ∀ before text after, FirstRun pattern before text after →
      (IsQuotedStart pattern ↔ before = [] ∧ after = []) ∧
      likeStarts [toJson pattern] = .ok [.str (.ofList (literalize pattern.tail ++ ['%']))] ∧
      (before = [] → literalize pattern.tail = ofLiteral text ++ literalize after) := by
  have hdetected : isLiteralStart pattern = true ↔
      ∃ before text after, FirstRun pattern before text after := by
    rw [isLiteralStart_eq_true_iff]
    constructor
    · rintro ⟨hanchored, rest, hrest, after, hafter⟩
      obtain ⟨before, hfirst, rfl⟩ := (after?_eq_some_iff anchorMark_isMark).1 hrest
      obtain ⟨text, hopen, rfl⟩ := (after?_eq_some_iff endMark_isMark).1 hafter
      exact ⟨before, text, after, hanchored, hfirst, hopen,
        (append_quotedStart before text after).symm⟩
    · rintro ⟨before, text, after, h⟩
      exact ⟨h.anchored, _, h.after?_anchorMark, after, h.after?_endMark⟩
  refine ⟨hdetected, ?_, fun before text after h => ?_⟩
  · rintro ⟨text, hopen, rfl⟩
    exact hdetected.2 ⟨[], text, [], .ofQuotedStart hopen⟩
  · refine ⟨h.isQuotedStart_iff, likeStarts_single h.anchored, ?_⟩
    rintro rfl
    have hquoted : pattern.tail = quoteMark ++ (text ++ (endMark ++ after)) := by
      rw [h.whole]
      simp [quotedStart, anchorMark]
    rw [hquoted]
    exact literalizeFrom_quoted h.text_open (by simp [endMark])

/-- An anchored literal that ends in a backslash, and a pattern whose first anchored
run stands inside another run. -/
theorem run_inside_run_detected :
    let literal := "^\\Qa\\\\E".toList
    let nested := "^x\\Q^\\Q.\\E*".toList
    (FirstRun literal [] "a\\".toList [] ∧ IsQuotedStart literal ∧ isLiteralStart literal ∧
      literalize literal.tail = ofLiteral "a\\".toList ++ literalize [] ∧
      likeStarts [toJson literal] = .ok [.str "a\\\\%"]) ∧
    (FirstRun nested "^x\\Q".toList ".".toList "*".toList ∧ ¬ IsQuotedStart nested ∧
      isLiteralStart nested ∧ likeStarts [toJson nested] = .ok [.str "x\\^\\\\Q\\.*%"]) := by
  intro literal nested
  constructor
  · have hrun : FirstRun literal [] "a\\".toList [] := ⟨rfl, by decide, by decide, rfl⟩
    obtain ⟨-, hdetected, hsplit⟩ := isLiteralStart_iff literal
    obtain ⟨hquoted, hlike, hrest⟩ := hsplit _ _ _ hrun
    have hstart : IsQuotedStart literal := hquoted.2 ⟨rfl, rfl⟩
    have htext : String.ofList (literalize literal.tail ++ ['%']) = "a\\\\%" := by
      decide +kernel
    rw [htext] at hlike
    exact ⟨hrun, hstart, hdetected hstart, hrest rfl, hlike⟩
  · have hrun : FirstRun nested "^x\\Q".toList ".".toList "*".toList :=
      ⟨rfl, by decide, by decide, rfl⟩
    obtain ⟨hdetected, -, hsplit⟩ := isLiteralStart_iff nested
    obtain ⟨hquoted, hlike, -⟩ := hsplit _ _ _ hrun
    have htext : String.ofList (literalize nested.tail ++ ['%']) = "x\\^\\\\Q\\.*%" := by
      decide +kernel
    rw [htext] at hlike
    have hother : ¬ IsQuotedStart nested := fun h => absurd (hquoted.1 h).1 (by decide)
    exact ⟨hrun, hother, hdetected.2 ⟨_, _, _, hrun⟩, hlike⟩

/-- A pattern of two alternatives, and one that goes on behind its run, count as
anchored literals. -/
theorem alternative_detected :
    (isLiteralStart "^a|^\\Qb\\E".toList ∧ ¬ IsQuotedStart "^a|^\\Qb\\E".toList ∧
      likeStarts [toJson "^a|^\\Qb\\E".toList] = .ok [.str "a|^b%"]) ∧
    (isLiteralStart "^\\Qa\\E.*".toList ∧ ¬ IsQuotedStart "^\\Qa\\E.*".toList ∧
      likeStarts [toJson "^\\Qa\\E.*".toList] = .ok [.str "a.*%"]) := by
  have hbefore : FirstRun "^a|^\\Qb\\E".toList "^a|".toList "b".toList [] :=
    ⟨rfl, by decide, by decide, rfl⟩
  have hafter : FirstRun "^\\Qa\\E.*".toList [] "a".toList ".*".toList :=
    ⟨rfl, by decide, by decide, rfl⟩
  refine ⟨⟨by decide, fun h => ?_, ?_⟩, by decide, fun h => ?_, ?_⟩
  · exact absurd (hbefore.isQuotedStart_iff.1 h).1 (by decide)
  · exact likeStarts_single hbefore.anchored
  · exact absurd (hafter.isQuotedStart_iff.1 h).2 (by decide)
  · exact likeStarts_single hafter.anchored

end Pattern
end DocSql
