import DocSql.Sql.Builder
import DocSql.Sql.Quote
import Mathlib.Data.List.TakeWhile

/-!
Reading placeholders back out of a text. Quotes decide what counts, so texts
are joined where no quote is open, and a number never runs on into the text
behind it. A template is aligned when, wherever numbering starts, its numbered
text shows one placeholder after the other and nothing else.
-/
namespace DocSql.Sql

def startsWithDigit (text : List Char) : Bool := text.head?.any Char.isDigit

/-- The numbers of the `$n` outside quotes, from left to right. -/
def numbersIn (inside : Option Char) : List Char → List Nat
  | [] => []
  | c :: rest =>
    if inside = none ∧ c = '$' ∧ startsWithDigit rest then
      Nat.ofDigitChars 10 (rest.takeWhile Char.isDigit) 0 :: numbersIn none rest
    else numbersIn (quoteAfter inside c) rest

def placeholders (sql : String) : List Nat := numbersIn none sql.toList

theorem quoteAfter_of_mark {c : Char} (h : c = '?' ∨ c = '$') : quoteAfter none c = none := by
  rcases h with rfl | rfl <;> rfl

theorem markerCount_append (inside : Option Char) (a b : List Char) :
    markerCount inside (a ++ b) = markerCount inside a + markerCount (a.foldl quoteAfter inside) b := by
  induction a generalizing inside with
  | nil => simp [markerCount]
  | cons c rest ih => simp only [List.cons_append, markerCount, ih, List.foldl_cons, Nat.add_assoc]

theorem numbered_append (inside : Option Char) (next : Nat) (a b : List Char) :
    numbered inside next (a ++ b) =
      numbered inside next a ++ numbered (a.foldl quoteAfter inside) (next + markerCount inside a) b := by
  induction a generalizing inside next with
  | nil => simp [numbered, markerCount]
  | cons c rest ih =>
    simp only [List.cons_append, numbered, markerCount, List.foldl_cons]
    split
    next h =>
      obtain ⟨rfl, rfl⟩ := h
      simp only [ih, quoteAfter_of_mark (.inl rfl), List.append_assoc, Nat.add_assoc]
    next h => simp only [ih, List.cons_append, Nat.zero_add]

theorem startsWithDigit_append (a : List Char) {b : List Char} (hb : startsWithDigit b = false) :
    startsWithDigit (a ++ b) = startsWithDigit a := by
  cases a with
  | nil => simpa [startsWithDigit] using hb
  | cons c rest => rfl

theorem takeDigits_append (a : List Char) {b : List Char} (hb : startsWithDigit b = false) :
    (a ++ b).takeWhile Char.isDigit = a.takeWhile Char.isDigit := by
  induction a with
  | nil =>
    cases b with
    | nil => rfl
    | cons d b =>
      have hd : d.isDigit = false := by simpa [startsWithDigit] using hb
      simp [hd]
  | cons c rest ih => simp only [List.cons_append, List.takeWhile_cons, ih]

theorem numbersIn_append (inside : Option Char) (a : List Char) {b : List Char}
    (hb : startsWithDigit b = false) :
    numbersIn inside (a ++ b) = numbersIn inside a ++ numbersIn (a.foldl quoteAfter inside) b := by
  induction a generalizing inside with
  | nil => rfl
  | cons c rest ih =>
    simp only [List.cons_append, numbersIn, startsWithDigit_append rest hb,
      takeDigits_append rest hb, List.foldl_cons]
    split
    next h =>
      obtain ⟨rfl, rfl, h⟩ := h
      simp only [ih, quoteAfter_of_mark (.inr rfl), List.cons_append]
    next h => exact ih _

def isPlain (text : List Char) : Bool := text.all fun c => !(['"', '\'', '?', '$'].contains c)

theorem isPlain_cons {c : Char} {rest : List Char} (h : isPlain (c :: rest)) :
    quoteAfter none c = none ∧ c ≠ '?' ∧ c ≠ '$' ∧ isPlain rest := by
  simp only [isPlain, List.all_cons, Bool.and_eq_true, Bool.not_eq_true', List.contains_eq_mem,
    List.mem_cons, List.not_mem_nil, or_false, decide_eq_false_iff_not, not_or] at h ⊢
  obtain ⟨⟨h1, h2, h3, h4⟩, hr⟩ := h
  exact ⟨by simp [quoteAfter, h1, h2], h3, h4, hr⟩

theorem quoteAfter_plain {text : List Char} (h : isPlain text) : text.foldl quoteAfter none = none := by
  induction text with
  | nil => rfl
  | cons c rest ih =>
    obtain ⟨hc, -, -, hr⟩ := isPlain_cons h
    rw [List.foldl_cons, hc, ih hr]

theorem markerCount_plain {text : List Char} (h : isPlain text) : markerCount none text = 0 := by
  induction text with
  | nil => rfl
  | cons c rest ih =>
    obtain ⟨hc, hm, -, hr⟩ := isPlain_cons h
    simp [markerCount, hc, hm, ih hr]

theorem numbered_plain {text : List Char} (h : isPlain text) (next : Nat) :
    numbered none next text = text := by
  induction text with
  | nil => rfl
  | cons c rest ih =>
    obtain ⟨hc, hm, -, hr⟩ := isPlain_cons h
    simp [numbered, hc, hm, ih hr]

theorem numbersIn_plain_append {text : List Char} (h : isPlain text) (rest : List Char) :
    numbersIn none (text ++ rest) = numbersIn none rest := by
  induction text with
  | nil => rfl
  | cons c text ih =>
    obtain ⟨hc, -, hd, hr⟩ := isPlain_cons h
    simp [numbersIn, hc, hd, ih hr]

def isQuote (c : Char) : Prop := c = '"' ∨ c = '\''

theorem quoteAfter_quote {q : Char} (h : isQuote q) : quoteAfter none q = some q := by
  rcases h with rfl | rfl <;> rfl

theorem quoteAfter_close (q : Char) : quoteAfter (some q) q = none := by simp [quoteAfter]

theorem quoteAfter_other {q c : Char} (h : c ≠ q) : quoteAfter (some q) c = some q := by
  simp [quoteAfter, h]

theorem quoteAfter_doubled {q : Char} (hq : isQuote q) (text : List Char) :
    (doubled q text).foldl quoteAfter (some q) = some q := by
  induction text with
  | nil => rfl
  | cons c rest ih =>
    unfold doubled
    split
    next h => simp only [h, List.foldl_cons, quoteAfter_close, quoteAfter_quote hq, ih]
    next h => simp only [List.foldl_cons, quoteAfter_other h, ih]

theorem quote_not_mark {q : Char} (h : isQuote q) : q ≠ '?' ∧ q ≠ '$' := by
  rcases h with rfl | rfl <;> decide

theorem markerCount_doubled {q : Char} (hq : isQuote q) (text : List Char) :
    markerCount (some q) (doubled q text) = 0 := by
  induction text with
  | nil => rfl
  | cons c rest ih =>
    unfold doubled
    split
    next h =>
      simp [h, markerCount, quoteAfter_close, quoteAfter_quote hq, (quote_not_mark hq).1, ih]
    next h => simp [markerCount, quoteAfter_other h, ih]

theorem numbered_doubled {q : Char} (hq : isQuote q) (next : Nat) (text : List Char) :
    numbered (some q) next (doubled q text) = doubled q text := by
  induction text with
  | nil => rfl
  | cons c rest ih =>
    unfold doubled
    split
    next h => simp [h, numbered, quoteAfter_close, quoteAfter_quote hq, (quote_not_mark hq).1, ih]
    next h => simp [numbered, quoteAfter_other h, ih]

theorem numbersIn_doubled_append {q : Char} (hq : isQuote q) (text rest : List Char) :
    numbersIn (some q) (doubled q text ++ rest) = numbersIn (some q) rest := by
  induction text with
  | nil => rfl
  | cons c text ih =>
    unfold doubled
    split
    next h =>
      simp [h, numbersIn, quoteAfter_close, quoteAfter_quote hq, (quote_not_mark hq).2, ih]
    next h => simp [numbersIn, quoteAfter_other h, ih]

/-- A text that leaves no quote open and has just these placeholders. -/
structure Shows (text : List Char) (found : List Nat) : Prop where
  closed : text.foldl quoteAfter none = none
  numbers : numbersIn none text = found

namespace Shows

theorem plain {text : List Char} (h : isPlain text) : Shows text [] := by
  refine ⟨quoteAfter_plain h, ?_⟩
  have hn := numbersIn_plain_append h []
  rwa [List.append_nil] at hn

theorem append {a b : List Char} {m n : List Nat} (ha : Shows a m) (hb : Shows b n)
    (hd : startsWithDigit b = false) : Shows (a ++ b) (m ++ n) := by
  constructor
  · rw [List.foldl_append, ha.closed, hb.closed]
  · rw [numbersIn_append none a hd, ha.numbers, ha.closed, hb.numbers]

theorem plain_append {a b : List Char} {n : List Nat} (ha : isPlain a) (hb : Shows b n) :
    Shows (a ++ b) n := by
  constructor
  · rw [List.foldl_append, quoteAfter_plain ha, hb.closed]
  · rw [numbersIn_plain_append ha, hb.numbers]

theorem placeholders_eq {sql : String} {found : List Nat} (h : Shows sql.toList found) :
    placeholders sql = found := h.numbers

end Shows

theorem placeholder_toList (n : Nat) : (placeholder n).toList = '$' :: Nat.toDigits 10 n := by
  have h : (toString n).toList = Nat.toDigits 10 n := Nat.toList_repr
  rw [placeholder, String.toList_append, h]
  rfl

theorem isDigit_not_marked {c : Char} (h : c.isDigit) : !(['"', '\'', '?', '$'].contains c) := by
  rw [Bool.not_eq_true', List.contains_eq_mem, decide_eq_false_iff_not]
  intro hc
  simp only [List.mem_cons, List.not_mem_nil, or_false] at hc
  rcases hc with rfl | rfl | rfl | rfl <;> contradiction

theorem isDigit_toDigits (n : Nat) : ∀ c ∈ Nat.toDigits 10 n, c.isDigit := fun _ hc =>
  Nat.isDigit_of_mem_toDigits (by decide) (by decide) hc

theorem isPlain_digits (n : Nat) : isPlain (Nat.toDigits 10 n) := by
  rw [isPlain, List.all_eq_true]
  intro c hc
  exact isDigit_not_marked (isDigit_toDigits n c hc)

theorem startsWithDigit_digits (n : Nat) (rest : List Char) :
    startsWithDigit (Nat.toDigits 10 n ++ rest) := by
  cases h : Nat.toDigits 10 n with
  | nil => exact absurd h Nat.toDigits_ne_nil
  | cons d digits => exact isDigit_toDigits n d (by simp [h])

theorem takeWhile_digits (n : Nat) (rest : List Char) :
    (Nat.toDigits 10 n ++ rest).takeWhile Char.isDigit =
      Nat.toDigits 10 n ++ rest.takeWhile Char.isDigit :=
  List.takeWhile_append_of_pos (isDigit_toDigits n)

theorem numbersIn_placeholder (n : Nat) (rest : List Char) :
    numbersIn none ((placeholder n).toList ++ rest) =
      Nat.ofDigitChars 10 (Nat.toDigits 10 n ++ rest.takeWhile Char.isDigit) 0 ::
        numbersIn none rest := by
  rw [placeholder_toList, List.cons_append, numbersIn,
    if_pos ⟨rfl, rfl, startsWithDigit_digits n rest⟩, takeWhile_digits,
    numbersIn_plain_append (isPlain_digits n)]

theorem Shows.placeholder (n : Nat) : Shows (placeholder n).toList [n] := by
  constructor
  · rw [placeholder_toList, List.foldl_cons, quoteAfter_of_mark (.inr rfl)]
    exact quoteAfter_plain (isPlain_digits n)
  · have hnumbers := numbersIn_placeholder n []
    rwa [List.append_nil, List.takeWhile_nil, List.append_nil,
      Nat.ofDigitChars_ten_toDigits] at hnumbers

/-- A template that leaves no quote open, has so many markers, and shows the
placeholders that replace them wherever numbering starts. -/
structure Aligned (template : List Char) (count : Nat) : Prop where
  closed : template.foldl quoteAfter none = none
  markers : markerCount none template = count
  shows : ∀ next, Shows (numbered none next template) (List.range' next count)

theorem startsWithDigit_numbered (next : Nat) (template : List Char) :
    startsWithDigit (numbered none next template) = startsWithDigit template := by
  cases template with
  | nil => rfl
  | cons c rest =>
    unfold numbered
    split
    next h =>
      rw [placeholder_toList, h.2]
      rfl
    next h => rfl

namespace Aligned

theorem plain {template : List Char} (h : isPlain template) : Aligned template 0 := by
  refine ⟨quoteAfter_plain h, markerCount_plain h, fun next => ?_⟩
  rw [numbered_plain h]
  exact .plain h

theorem marker : Aligned "?".toList 1 := by
  have hlist : "?".toList = ['?'] := rfl
  rw [hlist]
  refine ⟨rfl, rfl, fun next => ?_⟩
  have h : numbered none next ['?'] = (placeholder next).toList := by simp [numbered]
  rw [h]
  exact .placeholder next

theorem enclosed {q : Char} (hq : isQuote q) (text : String) : Aligned (enclose q text).toList 0 := by
  have hlist : (enclose q text).toList = q :: (doubled q text.toList ++ [q]) := by simp [enclose]
  have hclosed : (enclose q text).toList.foldl quoteAfter none = none := by
    rw [hlist, List.foldl_cons, quoteAfter_quote hq, List.foldl_append, quoteAfter_doubled hq]
    simp [quoteAfter_close]
  refine ⟨hclosed, ?_, fun next => ?_⟩
  · simp [hlist, markerCount, quoteAfter_quote hq, markerCount_append, markerCount_doubled hq,
      quoteAfter_doubled hq, (quote_not_mark hq).1]
  · have hsame : numbered none next (enclose q text).toList = (enclose q text).toList := by
      simp [hlist, numbered, quoteAfter_quote hq, numbered_append, numbered_doubled hq,
        quoteAfter_doubled hq, (quote_not_mark hq).1]
    rw [hsame]
    refine ⟨hclosed, ?_⟩
    simp [hlist, numbersIn, quoteAfter_quote hq, numbersIn_doubled_append hq,
      (quote_not_mark hq).2]

theorem plain_append {a b : List Char} {n : Nat} (ha : isPlain a) (hb : Aligned b n) :
    Aligned (a ++ b) n := by
  refine ⟨?_, ?_, fun next => ?_⟩
  · rw [List.foldl_append, quoteAfter_plain ha, hb.closed]
  · rw [markerCount_append, quoteAfter_plain ha, markerCount_plain ha, hb.markers, Nat.zero_add]
  · rw [numbered_append, quoteAfter_plain ha, markerCount_plain ha, numbered_plain ha]
    exact .plain_append ha (hb.shows next)

theorem append {a b : List Char} {m n : Nat} (ha : Aligned a m) (hb : Aligned b n)
    (hd : startsWithDigit b = false) : Aligned (a ++ b) (m + n) := by
  refine ⟨?_, ?_, fun next => ?_⟩
  · rw [List.foldl_append, ha.closed, hb.closed]
  · rw [markerCount_append, ha.closed, ha.markers, hb.markers]
  · rw [numbered_append, ha.closed, ha.markers, ← List.range'_append_1]
    refine (ha.shows next).append (hb.shows (next + m)) ?_
    rw [startsWithDigit_numbered, hd]

theorem append_plain {a b : List Char} {n : Nat} (ha : Aligned a n) (hb : isPlain b)
    (hd : startsWithDigit b = false) : Aligned (a ++ b) n :=
  ha.append (.plain hb) hd

theorem numbered_plain_append {a : List Char} (ha : isPlain a) (next : Nat) (b : List Char) :
    numbered none next (a ++ b) = a ++ numbered none next b := by
  rw [Sql.numbered_append, quoteAfter_plain ha, markerCount_plain ha, numbered_plain ha,
    Nat.add_zero]

theorem numbered_append {a : List Char} {m : Nat} (ha : Aligned a m) (next : Nat) (b : List Char) :
    numbered none next (a ++ b) = numbered none next a ++ numbered none (next + m) b := by
  rw [Sql.numbered_append, ha.closed, ha.markers]

end Aligned

theorem identifier_aligned (name : String) : Aligned (identifier name).toList 0 :=
  .enclosed (.inl rfl) name

theorem literal_aligned (text : String) : Aligned (literal text).toList 0 :=
  .enclosed (.inr rfl) text

end DocSql.Sql
