import DocSql.Proofs.Sql.Fragments
import DocSql.Proofs.Sql.Truth

/-!
Reading a condition back out of its text by the precedence of SQL: `NOT` before
`AND` before `OR`, and parentheses before all of them. A text falls into words
at the spaces outside quotes and brackets; what the connectives leave together
is an atom, and only parentheses around all of it are opened.
-/
namespace DocSql.Sql

/-- Where a character of a text stands. -/
structure Place where
  quote : Option Char := none
  depth : Nat := 0
deriving DecidableEq, Inhabited

namespace Place

def top : Place := {}

def after? (p : Place) (c : Char) : Option Place :=
  if p.quote.isSome then some { p with quote := quoteAfter p.quote c }
  else if c = '(' ∨ c = '[' then some { p with depth := p.depth + 1 }
  else if c = ')' ∨ c = ']' then
    match p.depth with
    | 0 => none
    | depth + 1 => some { p with depth }
  else some { p with quote := quoteAfter none c }

end Place

def wordsFrom (p : Place) : List Char → List (List Char)
  | [] => [[]]
  | c :: rest =>
    if p = .top ∧ c = ' ' then [] :: wordsFrom p rest
    else match wordsFrom ((p.after? c).getD p) rest with
      | word :: words => (c :: word) :: words
      | [] => [[c]]

def words (text : List Char) : List (List Char) := wordsFrom .top text

def walk (word : Bool) (p : Place) : List Char → Option Place
  | [] => some p
  | c :: rest =>
    if word ∧ p = .top ∧ c = ' ' then none
    else (p.after? c).bind fun q => walk word q rest

def IsClosed (text : List Char) : Prop := walk false .top text = some .top

/-- A closed text without spaces but inside quotes and brackets. -/
def IsWord (text : List Char) : Prop := walk true .top text = some .top

instance (text : List Char) : Decidable (IsClosed text) :=
  inferInstanceAs (Decidable (_ = _))

instance (text : List Char) : Decidable (IsWord text) :=
  inferInstanceAs (Decidable (_ = _))

/-- What stands in parentheses that enclose the whole word. -/
def interior? (word : List Char) : Option (List Char) :=
  match word with
  | '(' :: rest =>
    if rest.getLast? = some ')' ∧ IsClosed rest.dropLast then some rest.dropLast else none
  | _ => none

def joinWords (words : List (List Char)) : List Char := [' '].intercalate words

def atom (words : List (List Char)) : Formula String :=
  let text := String.ofList (joinWords words)
  if text = "" ∨ text = "TRUE" then .always else .leaf text

def notWord : List Char := ['N', 'O', 'T']
def andWord : List Char := ['A', 'N', 'D']
def orWord : List Char := ['O', 'R']

def readOperand (inner : List Char → Formula String) : List (List Char) → Formula String
  | [] => atom []
  | word :: rest =>
    if word = notWord then .not (readOperand inner rest)
    else if rest.isEmpty then ((interior? word).map inner).getD (atom [word])
    else atom (word :: rest)

def readConjunction (inner : List Char → Formula String) (words : List (List Char)) :
    Formula String := .all ((words.splitOn andWord).map (readOperand inner))

def readTo : Nat → List Char → Formula String
  | 0, text => atom [text]
  | depth + 1, text => .any (((words text).splitOn orWord).map (readConjunction (readTo depth)))

/-- Reads a condition, opening all parentheses; there are not more of them than
characters. -/
def read (text : String) : Formula String := readTo (text.toList.length + 1) text.toList

example : read "a = 1 AND NOT (b = 2 OR \"c OR d\" IS NULL) OR TRUE" =
    .or [.and [.leaf "a = 1", .not (.or [.leaf "b = 2", .leaf "\"c OR d\" IS NULL"])],
      .always] := by
  rfl

namespace Place

def deeper (p : Place) : Place := { p with depth := p.depth + 1 }

theorem deeper_ne_top (p : Place) : p.deeper ≠ .top := by
  intro h
  have hdepth := congrArg Place.depth h
  exact Nat.succ_ne_zero _ hdepth

theorem after?_deeper {p q : Place} {c : Char} (h : p.after? c = some q) :
    p.deeper.after? c = some q.deeper := by
  obtain ⟨quote, depth⟩ := p
  cases quote with
  | some quote =>
    cases h
    rfl
  | none =>
    by_cases ho : c = '(' ∨ c = '['
    · simp only [after?, deeper, Option.isSome_none, Bool.false_eq_true, if_false, if_pos ho,
        Option.some.injEq] at h ⊢
      rw [← h]
    · by_cases hc : c = ')' ∨ c = ']'
      · simp only [after?, deeper, Option.isSome_none, Bool.false_eq_true, if_false, if_neg ho,
          if_pos hc] at h ⊢
        cases depth with
        | zero => contradiction
        | succ depth =>
          cases h
          rfl
      · simp only [after?, deeper, Option.isSome_none, Bool.false_eq_true, if_false, if_neg ho,
          if_neg hc, Option.some.injEq] at h ⊢
        rw [← h]

end Place

theorem walk_append (word : Bool) (p : Place) (a b : List Char) :
    walk word p (a ++ b) = (walk word p a).bind fun q => walk word q b := by
  induction a generalizing p with
  | nil => rfl
  | cons c rest ih =>
    simp only [List.cons_append, walk]
    split
    · rfl
    · cases p.after? c with
      | none => rfl
      | some q => simp only [Option.bind_some, ih]

theorem walk_trans {word : Bool} {p q r : Place} {a b : List Char} (ha : walk word p a = some q)
    (hb : walk word q b = some r) : walk word p (a ++ b) = some r := by
  rw [walk_append, ha, Option.bind_some, hb]

theorem walk_deeper {word other : Bool} {p q : Place} {text : List Char}
    (h : walk word p text = some q) : walk other p.deeper text = some q.deeper := by
  induction text generalizing p with
  | nil =>
    simp only [walk, Option.some.injEq] at h ⊢
    rw [h]
  | cons c rest ih =>
    simp only [walk] at h ⊢
    split at h
    · contradiction
    · obtain ⟨r, hr, hrest⟩ := Option.bind_eq_some_iff.1 h
      rw [if_neg (fun hc => p.deeper_ne_top hc.2.1), Place.after?_deeper hr, Option.bind_some]
      exact ih hrest

theorem IsWord.isClosed {text : List Char} (h : IsWord text) : IsClosed text := by
  have hwalk : ∀ {p q : Place} {text : List Char}, walk true p text = some q →
      walk false p text = some q := by
    intro p q text
    induction text generalizing p with
    | nil => exact id
    | cons c rest ih =>
      intro h
      simp only [walk] at h ⊢
      split at h
      · contradiction
      · obtain ⟨r, hr, hrest⟩ := Option.bind_eq_some_iff.1 h
        rw [if_neg (by simp), hr, Option.bind_some]
        exact ih hrest
  exact hwalk h

theorem IsWord.append {a b : List Char} (ha : IsWord a) (hb : IsWord b) : IsWord (a ++ b) :=
  walk_trans ha hb

theorem IsClosed.append {a b : List Char} (ha : IsClosed a) (hb : IsClosed b) : IsClosed (a ++ b) :=
  walk_trans ha hb

theorem IsClosed.enclosed {text : List Char} (h : IsClosed text) {first last : Char}
    (hf : first = '(' ∨ first = '[') (hl : last = ')' ∨ last = ']') :
    IsWord (first :: (text ++ [last])) := by
  have hopen : walk true .top [first] = some Place.top.deeper := by
    rcases hf with rfl | rfl <;> rfl
  have hclose : walk true Place.top.deeper [last] = some .top := by
    rcases hl with rfl | rfl <;> rfl
  exact walk_trans (a := [first]) hopen (walk_trans (walk_deeper h) hclose)

theorem IsClosed.parenthesized {text : List Char} (h : IsClosed text) :
    IsWord ("(".toList ++ (text ++ ")".toList)) :=
  h.enclosed (.inl rfl) (.inl rfl)

theorem wordsFrom_walk {p q : Place} {text : List Char} (h : walk true p text = some q)
    {rest word : List Char} {more : List (List Char)} (hr : wordsFrom q rest = word :: more) :
    wordsFrom p (text ++ rest) = (text ++ word) :: more := by
  induction text generalizing p with
  | nil =>
    simp only [walk, Option.some.injEq] at h
    rw [h]
    exact hr
  | cons c text ih =>
    simp only [walk] at h
    split at h
    · contradiction
    next hspace =>
      obtain ⟨r, hafter, hwalk⟩ := Option.bind_eq_some_iff.1 h
      have hc : ¬(p = .top ∧ c = ' ') := fun hc => hspace ⟨trivial, hc⟩
      rw [List.cons_append, wordsFrom, if_neg hc, hafter, Option.getD_some, ih hwalk]
      rfl

theorem joinWords_cons (word : List Char) {more : List (List Char)} (h : more ≠ []) :
    joinWords (word :: more) = word ++ ' ' :: joinWords more := by
  rw [joinWords, List.intercalate_cons_of_ne_nil h]
  simp [joinWords]

/-- The words that a text is made of. -/
structure Spells (text : List Char) (ws : List (List Char)) : Prop where
  nonempty : ws ≠ []
  areWords : ∀ w ∈ ws, IsWord w
  joined : text = joinWords ws

namespace Spells

theorem single {text : List Char} (h : IsWord text) : Spells text [text] := by
  refine ⟨by simp, by simpa using h, ?_⟩
  simp [joinWords]

theorem append {a b : List Char} {ws vs : List (List Char)} (ha : Spells a ws)
    (hb : Spells b vs) : Spells (a ++ ' ' :: b) (ws ++ vs) := by
  refine ⟨by simp [ha.nonempty], ?_, ?_⟩
  · intro w hw
    rcases List.mem_append.1 hw with hw | hw
    · exact ha.areWords w hw
    · exact hb.areWords w hw
  · obtain ⟨hne, -, rfl⟩ := ha
    rw [hb.joined]
    induction ws with
    | nil => contradiction
    | cons w rest ih =>
      by_cases hrest : rest = []
      · subst hrest
        rw [List.singleton_append, joinWords_cons w hb.nonempty]
        simp [joinWords]
      · have hmore : rest ++ vs ≠ [] := by simp [hrest]
        rw [List.cons_append, joinWords_cons w hrest, joinWords_cons w hmore, ← ih hrest]
        simp

theorem isClosed {text : List Char} {ws : List (List Char)} (h : Spells text ws) :
    IsClosed text := by
  obtain ⟨hne, hwords, rfl⟩ := h
  induction ws with
  | nil => contradiction
  | cons w rest ih =>
    have hw := (hwords w List.mem_cons_self).isClosed
    by_cases hrest : rest = []
    · subst hrest
      simpa [joinWords] using hw
    · have hmore := ih hrest fun v hv => hwords v (List.mem_cons_of_mem w hv)
      rw [joinWords_cons w hrest]
      exact hw.append (IsClosed.append (a := [' ']) rfl hmore)

theorem words_eq {text : List Char} {ws : List (List Char)} (h : Spells text ws) :
    words text = ws := by
  obtain ⟨hne, hwords, rfl⟩ := h
  induction ws with
  | nil => contradiction
  | cons w rest ih =>
    have hw := hwords w List.mem_cons_self
    by_cases hrest : rest = []
    · subst hrest
      have hend : wordsFrom .top [] = [[]] := rfl
      have hall := wordsFrom_walk hw hend
      simpa [joinWords, words] using hall
    · have hmore := ih hrest fun v hv => hwords v (List.mem_cons_of_mem w hv)
      have hspace : wordsFrom .top (' ' :: joinWords rest) = [] :: rest := by
        rw [wordsFrom, if_pos ⟨rfl, rfl⟩]
        exact congrArg _ hmore
      rw [joinWords_cons w hrest, words, wordsFrom_walk hw hspace, List.append_nil]

end Spells

end DocSql.Sql
