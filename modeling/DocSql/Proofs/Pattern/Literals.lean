import DocSql.Pattern
import Mathlib.Data.List.Infix

/-!
Quoted runs of client patterns. Between its marks a run may hold anything but
an end mark, a backslash before the end mark included; outside runs a backslash
takes the character behind it along. Main statement: `Pattern.literalize_runs`.
-/
namespace DocSql.Pattern

def quoteMark : List Char := ['\\', 'Q']

def endMark : List Char := ['\\', 'E']

/-- Pattern text without marks: plain characters and whole escapes. -/
inductive Unquoted : List Char → Prop
  | nil : Unquoted []
  | plain {c : Char} {rest : List Char} (hc : c ≠ '\\') (h : Unquoted rest) : Unquoted (c :: rest)
  | escape {c : Char} {rest : List Char} (hq : c ≠ 'Q') (he : c ≠ 'E') (h : Unquoted rest) :
    Unquoted ('\\' :: c :: rest)

structure Run where
  text : List Char
  after : List Char
  text_open : ¬ endMark <:+: text
  after_unquoted : Unquoted after

namespace Run

def quoted (run : Run) : List Char := quoteMark ++ run.text ++ endMark ++ run.after

def literal (run : Run) : List Char := ofLiteral run.text ++ run.after

end Run

def isPlain (c : Char) : Bool := Text.isAlphanumeric c || c == ' '

/-- Plain characters as they are, and all others behind a backslash. -/
inductive IsLiteral : List Char → Prop
  | nil : IsLiteral []
  | plain {c : Char} {rest : List Char} (hc : isPlain c) (h : IsLiteral rest) : IsLiteral (c :: rest)
  | escape {c : Char} {rest : List Char} (hc : isPlain c = false) (h : IsLiteral rest) :
    IsLiteral ('\\' :: c :: rest)

def unescape : List Char → List Char
  | [] => []
  | '\\' :: c :: rest => c :: unescape rest
  | c :: rest => c :: unescape rest

variable {c : Char} {text tail : List Char}

theorem escaped_of_isPlain (h : isPlain c) : escaped c = [c] := if_pos h

theorem escaped_of_not_isPlain (h : isPlain c = false) : escaped c = ['\\', c] :=
  if_neg (Bool.eq_false_iff.1 h)

theorem ofLiteral_cons (c : Char) (text : List Char) :
    ofLiteral (c :: text) = escaped c ++ ofLiteral text := rfl

theorem ofLiteral_append (text more : List Char) :
    ofLiteral (text ++ more) = ofLiteral text ++ ofLiteral more := List.flatMap_append

theorem isLiteral_ofLiteral (text : List Char) : IsLiteral (ofLiteral text) := by
  induction text with
  | nil => exact .nil
  | cons c rest ih =>
    rw [ofLiteral_cons]
    cases hc : isPlain c with
    | true =>
      rw [escaped_of_isPlain hc]
      exact .plain hc ih
    | false =>
      rw [escaped_of_not_isPlain hc]
      exact .escape hc ih

theorem unescape_cons (h : c ≠ '\\') (rest : List Char) :
    unescape (c :: rest) = c :: unescape rest := by
  rw [unescape]
  rintro _ _ rfl
  exact absurd rfl h

theorem unescape_ofLiteral (text : List Char) : unescape (ofLiteral text) = text := by
  induction text with
  | nil => rfl
  | cons c rest ih =>
    rw [ofLiteral_cons]
    cases hc : isPlain c with
    | true =>
      have hne : c ≠ '\\' := by
        rintro rfl
        exact absurd hc (by decide +kernel)
      rw [escaped_of_isPlain hc, List.singleton_append, unescape_cons hne, ih]
    | false =>
      rw [escaped_of_not_isPlain hc]
      change c :: unescape (ofLiteral rest) = _
      rw [ih]

theorem literalizeFrom_quoted_cons (h : ¬ endMark <+: c :: tail) :
    literalizeFrom true (c :: tail) = escaped c ++ literalizeFrom true tail := by
  rw [literalizeFrom]
  rintro rest rfl rfl
  exact h (List.prefix_append endMark rest)

/-- A text without an end mark goes through as it is meant. What follows it must
not make one of its last backslash. -/
theorem literalizeFrom_quoted (ht : ¬ endMark <:+: text) (hnext : tail.head? ≠ some 'E') :
    literalizeFrom true (text ++ tail) = ofLiteral text ++ literalizeFrom true tail := by
  induction text with
  | nil => rfl
  | cons c rest ih =>
    have hmark : ¬ endMark <+: c :: (rest ++ tail) := by
      rintro ⟨more, hmore⟩
      obtain ⟨rfl, hafter⟩ : '\\' = c ∧ 'E' :: more = rest ++ tail := List.cons.inj hmore
      cases rest with
      | nil => exact hnext (congrArg List.head? hafter.symm)
      | cons d rest =>
        obtain ⟨rfl, -⟩ : 'E' = d ∧ more = rest ++ tail := List.cons.inj hafter
        exact ht (List.prefix_append endMark rest).isInfix
    have hrest : ¬ endMark <:+: rest := fun h => ht (h.trans (List.suffix_cons c rest).isInfix)
    rw [List.cons_append, literalizeFrom_quoted_cons hmark, ih hrest, ofLiteral_cons,
      List.append_assoc]

theorem literalizeFrom_unquoted (h : Unquoted text) (tail : List Char) :
    literalizeFrom false (text ++ tail) = text ++ literalizeFrom false tail := by
  induction h with
  | nil => rfl
  | plain hc h ih =>
    rw [List.cons_append, literalizeFrom, ih, List.cons_append]
    · rintro _ rfl
      exact absurd rfl hc
    · rintro _ rfl
      exact absurd rfl hc
    · rintro _ _ rfl
      exact absurd rfl hc
  | escape hq he h ih =>
    rw [List.cons_append, List.cons_append, literalizeFrom, ih]
    · rfl
    · exact he
    · exact hq

theorem literalizeFrom_run (run : Run) (tail : List Char) :
    literalizeFrom false (run.quoted ++ tail) = run.literal ++ literalizeFrom false tail := by
  have hquoted : run.quoted ++ tail =
      quoteMark ++ (run.text ++ (endMark ++ (run.after ++ tail))) := by
    simp only [Run.quoted, List.append_assoc]
  rw [hquoted]
  calc literalizeFrom true (run.text ++ (endMark ++ (run.after ++ tail)))
    _ = ofLiteral run.text ++ literalizeFrom false (run.after ++ tail) :=
      literalizeFrom_quoted run.text_open (by simp [endMark])
    _ = run.literal ++ literalizeFrom false tail := by
      rw [literalizeFrom_unquoted run.after_unquoted, Run.literal, List.append_assoc]

/-- Quoted runs become literals of their texts and the pattern text around them
stays, behind an anchor too. A literal escapes all but letters, numerals and
spaces, and stands for its text. -/
theorem literalize_runs {start : List Char} (h : Unquoted start) (runs : List Run)
    (text : List Char) :
    literalize (start ++ runs.flatMap Run.quoted) = start ++ runs.flatMap Run.literal ∧
    toEngine ('^' :: (start ++ runs.flatMap Run.quoted)) =
      '^' :: (start ++ runs.flatMap Run.literal) ∧
    IsLiteral (ofLiteral text) ∧ unescape (ofLiteral text) = text := by
  have hruns : literalizeFrom false (runs.flatMap Run.quoted) = runs.flatMap Run.literal := by
    induction runs with
    | nil => rfl
    | cons run rest ih => rw [List.flatMap_cons, literalizeFrom_run, ih, List.flatMap_cons]
  have hwhole : literalize (start ++ runs.flatMap Run.quoted) =
      start ++ runs.flatMap Run.literal := by
    rw [literalize, literalizeFrom_unquoted h, hruns]
  exact ⟨hwhole, congrArg ('^' :: ·) hwhole, isLiteral_ofLiteral text, unescape_ofLiteral text⟩

/-- A run that ends in a backslash, behind an escaped backslash and a letter `Q`. -/
theorem backslashes_literalized :
    let run : Run := ⟨".\\".toList, "$".toList, by decide, .plain (by decide) .nil⟩
    Unquoted "\\\\Q".toList ∧
    literalize "\\\\Q\\Q.\\\\E$".toList = "\\\\Q\\.\\\\$".toList ∧
    toEngine "^\\\\Q\\Q.\\\\E$".toList = "^\\\\Q\\.\\\\$".toList ∧
    IsLiteral (ofLiteral run.text) ∧ unescape (ofLiteral run.text) = run.text := by
  intro run
  have hstart : Unquoted "\\\\Q".toList :=
    .escape (by decide) (by decide) (.plain (by decide) .nil)
  obtain ⟨hwhole, hanchored, hliteral⟩ := literalize_runs hstart [run] run.text
  have hquoted : "\\\\Q".toList ++ [run].flatMap Run.quoted = "\\\\Q\\Q.\\\\E$".toList := by decide
  have hshown : "\\\\Q".toList ++ [run].flatMap Run.literal = "\\\\Q\\.\\\\$".toList := by
    decide +kernel
  rw [hquoted, hshown] at hwhole hanchored
  exact ⟨hstart, hwhole, hanchored, hliteral⟩

end DocSql.Pattern
