import DocSql.Proofs.Pattern.Literals
import Mathlib.Data.List.Count

/-!
Blanks and comments of client patterns. They are taken out before anchors and
quoted runs are looked for, so a run keeps its text only where there is nothing
in it to take out. Main statements: `Pattern.bound_open_iff` and
`Pattern.bound_ended_iff`.
-/
namespace DocSql.Pattern

/-- Whether a character is taken out where it is not escaped. -/
def isLoose (c : Char) : Bool := c == '#' || Text.isBlank c

/-- Pattern text whose blanks and number signs all stand behind a backslash that
escapes them. The last backslash may escape what follows. -/
inductive Tight : List Char → Prop
  | nil : Tight []
  | last : Tight ['\\']
  | plain {c : Char} {rest : List Char} (hc : c ≠ '\\') (hl : isLoose c = false)
    (h : Tight rest) : Tight (c :: rest)
  | escape {c : Char} {rest : List Char} (h : Tight rest) : Tight ('\\' :: c :: rest)

def bound (options pattern : List Char) : List Char :=
  toEngine (if options.contains 'x' then strip pattern else pattern)

variable {text options : List Char} {c : Char}

theorem stripFrom_sublist (inComment : Bool) (text : List Char) :
    (stripFrom inComment text).Sublist text := by
  fun_induction stripFrom inComment text with
  | case1 => exact .slnil
  | case2 c rest ih => exact ih.cons c
  | case3 c rest ih => exact (ih.cons_cons c).cons_cons '\\'
  | case4 rest _ ih => exact ih.cons '#'
  | case5 c rest _ _ _ ih => exact ih.cons c
  | case6 c rest _ _ _ ih => exact ih.cons_cons c

theorem strip_cons (hc : c ≠ '\\') (rest : List Char) :
    strip (c :: rest) = if c = '#' then stripFrom true rest
      else if Text.isBlank c then strip rest else c :: strip rest := by
  unfold strip
  rw [stripFrom]
  rintro _ _ rfl
  exact absurd rfl hc

theorem strip_of_tight (h : Tight text) : strip text = text := by
  induction h with
  | nil => rfl
  | last => rfl
  | @plain c rest hc hl h ih =>
    obtain ⟨hh, hb⟩ : c ≠ '#' ∧ Text.isBlank c = false := by simpa [isLoose] using hl
    rw [strip_cons hc, if_neg hh, hb, if_neg Bool.false_ne_true, ih]
  | @escape c rest h ih =>
    change '\\' :: c :: strip rest = _
    rw [ih]

theorem Tight.append_endMark (h : Tight text) : Tight (text ++ endMark) := by
  induction h with
  | nil => exact .escape .nil
  | last => exact .escape (.plain (by decide) (by decide) .nil)
  | plain hc hl h ih => exact .plain hc hl ih
  | escape h ih => exact .escape ih

def looseCount (text : List Char) : Nat := text.countP isLoose

theorem looseCount_cons (c : Char) (rest : List Char) :
    looseCount (c :: rest) = looseCount rest + if isLoose c then 1 else 0 := List.countP_cons

theorem looseCount_append (text more : List Char) :
    looseCount (text ++ more) = looseCount text + looseCount more := List.countP_append

theorem looseCount_stripFrom_le (inComment : Bool) (text : List Char) :
    looseCount (stripFrom inComment text) ≤ looseCount text :=
  (stripFrom_sublist inComment text).countP_le

theorem looseCount_strip_lt (tail : List Char) : ∀ {text : List Char}, ¬ Tight text →
    looseCount (strip (text ++ tail)) < looseCount (text ++ tail)
  | [], h => absurd .nil h
  | c :: rest, h => by
    by_cases hc : c = '\\'
    · subst hc
      -- The last backslash may escape the first character of the tail, any other
      -- one takes the next character of the text along.
      match rest, h with
      | [], h => exact absurd .last h
      | d :: rest, h =>
        have hrest := looseCount_strip_lt tail fun ht : Tight rest => h (.escape ht)
        change looseCount ('\\' :: d :: strip (rest ++ tail)) <
          looseCount ('\\' :: d :: (rest ++ tail))
        simp only [looseCount_cons]
        omega
    · rw [List.cons_append, strip_cons hc, looseCount_cons]
      split
      next hh =>
        subst hh
        have hle := looseCount_stripFrom_le true (rest ++ tail)
        rw [if_pos (by decide)]
        omega
      next hh =>
        split
        next hb =>
          have hle := looseCount_stripFrom_le false (rest ++ tail)
          rw [if_pos (by simp [isLoose, hb])]
          exact Nat.lt_succ_of_le hle
        next hb =>
          have hloose : isLoose c = false := by simp [isLoose, hh, hb]
          have hrest := looseCount_strip_lt tail fun ht : Tight rest => h (.plain hc hloose ht)
          rw [looseCount_cons]
          omega

theorem looseCount_escaped (c : Char) : looseCount (escaped c) = if isLoose c then 1 else 0 := by
  cases hc : isPlain c with
  | true =>
    rw [escaped_of_isPlain hc, looseCount_cons]
    exact Nat.zero_add _
  | false =>
    rw [escaped_of_not_isPlain hc, looseCount_cons, looseCount_cons]
    exact Nat.zero_add _

theorem looseCount_literalizeFrom (quoted : Bool) (text : List Char) :
    looseCount (literalizeFrom quoted text) = looseCount text := by
  fun_induction literalizeFrom quoted text with
  | case1 => rfl
  | case2 _ rest ih => exact ih
  | case3 rest ih => exact ih
  | case4 c rest _ _ ih => simp only [looseCount_cons, ih]
  | case5 c rest _ _ _ ih => simp only [looseCount_cons, ih]
  | case6 c rest _ ih =>
    rw [looseCount_append, looseCount_escaped, ih, looseCount_cons, Nat.add_comm]

theorem looseCount_toEngine (pattern : List Char) :
    looseCount (toEngine pattern) = looseCount pattern := by
  unfold toEngine
  split
  · rw [looseCount_cons, looseCount_cons, literalize, looseCount_literalizeFrom]
  · split
    next hlast =>
      rw [looseCount_append, literalize, looseCount_literalizeFrom, ← looseCount_append,
        List.dropLast_append_getLast? '$' hlast]
    next => exact looseCount_literalizeFrom false pattern

theorem looseCount_ofLiteral (text : List Char) : looseCount (ofLiteral text) = looseCount text := by
  induction text with
  | nil => rfl
  | cons c rest ih =>
    rw [ofLiteral_cons, looseCount_append, looseCount_escaped, ih, looseCount_cons, Nat.add_comm]

/-- A pattern that starts with a run has no leading anchor, so its last character
may be taken for a trailing one. -/
theorem toEngine_quoted (text : List Char) : toEngine (quoteMark ++ text) =
    if text.getLast? = some '$' then literalizeFrom true text.dropLast ++ ['$']
    else literalizeFrom true text := by
  cases text with
  | nil => rfl
  | cons c rest =>
    have hlast : (quoteMark ++ c :: rest).getLast? = (c :: rest).getLast? :=
      List.getLast?_append_of_ne_nil _ (List.cons_ne_nil c rest)
    have hdrop : (quoteMark ++ c :: rest).dropLast = quoteMark ++ (c :: rest).dropLast :=
      List.dropLast_append_of_ne_nil (List.cons_ne_nil c rest)
    change (if (quoteMark ++ c :: rest).getLast? = some '$'
      then literalize (quoteMark ++ c :: rest).dropLast ++ ['$']
      else literalize (quoteMark ++ c :: rest)) = _
    rw [hlast, hdrop]
    rfl

theorem literalizeFrom_open (ht : ¬ endMark <:+: text) :
    literalizeFrom true text = ofLiteral text := by
  have hnext : ([] : List Char).head? ≠ some 'E' := nofun
  have h := literalizeFrom_quoted ht hnext
  rwa [List.append_nil, literalizeFrom, List.append_nil] at h

theorem toEngine_open (ht : ¬ endMark <:+: text) : toEngine (quoteMark ++ text) =
    if text.getLast? = some '$' then ofLiteral text.dropLast ++ ['$'] else ofLiteral text := by
  have hstart : ¬ endMark <:+: text.dropLast :=
    fun h => ht (h.trans (List.dropLast_prefix text).isInfix)
  rw [toEngine_quoted, literalizeFrom_open ht, literalizeFrom_open hstart]

theorem toEngine_open_iff (ht : ¬ endMark <:+: text) :
    toEngine (quoteMark ++ text) = ofLiteral text ↔ text.getLast? ≠ some '$' := by
  rw [toEngine_open ht]
  split
  next hlast =>
    have hwhole := List.dropLast_append_getLast? '$' hlast
    have hdollar : ['$'] ≠ ofLiteral ['$'] := by decide +kernel
    refine iff_of_false (fun h => hdollar ?_) (not_not.2 hlast)
    rw [← hwhole, ofLiteral_append, hwhole] at h
    exact List.append_cancel_left h
  next hlast => exact iff_of_true rfl hlast

theorem toEngine_ended (ht : ¬ endMark <:+: text) :
    toEngine (quoteMark ++ text ++ endMark) = ofLiteral text := by
  have hlast : (text ++ endMark).getLast? ≠ some '$' := by simp [endMark]
  rw [List.append_assoc, toEngine_quoted, if_neg hlast, literalizeFrom_quoted ht (by decide)]
  exact List.append_nil _

theorem bound_ne_of_not_tight (hx : options.contains 'x') (h : ¬ Tight text)
    (tail : List Char) (htail : looseCount tail = 0) :
    bound options (quoteMark ++ (text ++ tail)) ≠ ofLiteral text := by
  intro hbound
  have hlost := looseCount_strip_lt tail h
  have hkept := congrArg looseCount hbound
  rw [bound, if_pos hx, looseCount_toEngine, looseCount_ofLiteral] at hkept
  change looseCount (strip (text ++ tail)) = _ at hkept
  rw [looseCount_append, htail] at hlost
  omega

theorem bound_of_not_contains (hx : ¬ options.contains 'x') (pattern : List Char) :
    bound options pattern = toEngine pattern := by
  rw [bound, if_neg hx]

theorem bound_of_tight (h : Tight text) : bound options text = toEngine text := by
  rw [bound, strip_of_tight h, ite_self]

theorem bound_open (ht : ¬ endMark <:+: text) (hk : options.contains 'x' → Tight text) :
    bound options (quoteMark ++ text) =
      if text.getLast? = some '$' then ofLiteral text.dropLast ++ ['$'] else ofLiteral text := by
  rw [← toEngine_open ht]
  by_cases hx : options.contains 'x'
  · have hquoted : Tight (quoteMark ++ text) := .escape (hk hx)
    exact bound_of_tight hquoted
  · exact bound_of_not_contains hx _

theorem bound_open_iff (ht : ¬ endMark <:+: text) :
    bound options (quoteMark ++ text) = ofLiteral text ↔
      text.getLast? ≠ some '$' ∧ (options.contains 'x' → Tight text) := by
  by_cases hk : options.contains 'x' → Tight text
  · rw [bound_open ht hk, ← toEngine_open ht, toEngine_open_iff ht, and_iff_left hk]
  · obtain ⟨hx, h⟩ := Classical.not_imp.1 hk
    have hne := bound_ne_of_not_tight hx h [] rfl
    rw [List.append_nil] at hne
    exact iff_of_false hne fun hkept => hk hkept.2

theorem bound_ended_iff (ht : ¬ endMark <:+: text) :
    bound options (quoteMark ++ text ++ endMark) = ofLiteral text ↔
      (options.contains 'x' → Tight text) := by
  by_cases hx : options.contains 'x'
  · by_cases h : Tight text
    · have hquoted : Tight (quoteMark ++ text ++ endMark) := .escape h.append_endMark
      rw [bound_of_tight hquoted]
      exact iff_of_true (toEngine_ended ht) fun _ => h
    · have hne := bound_ne_of_not_tight hx h endMark rfl
      rw [← List.append_assoc] at hne
      exact iff_of_false hne fun hkept => h (hkept hx)
  · rw [bound_of_not_contains hx]
    exact iff_of_true (toEngine_ended ht) fun h => absurd h hx

end DocSql.Pattern
