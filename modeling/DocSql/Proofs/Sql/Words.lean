import DocSql.Proofs.Sql.Precedence

/-!
The words of templates. An expression is one word of its condition, no matter
what its fields and texts hold, and is never taken for a connective. Numbering
the markers changes neither where words end nor which of them connect.
-/
namespace DocSql.Sql

def isFlat (c : Char) : Bool := !(['"', '\'', '(', ')', '[', ']'].contains c)

theorem after?_flat {p : Place} (hp : p.quote = none) {c : Char} (hc : isFlat c) :
    p.after? c = some p := by
  obtain ⟨quote, depth⟩ := p
  subst hp
  simp only [isFlat, Bool.not_eq_true', List.contains_eq_mem, List.mem_cons, List.not_mem_nil,
    or_false, decide_eq_false_iff_not, not_or] at hc
  simp [Place.after?, quoteAfter, hc]

theorem walk_flat {word : Bool} {p : Place} (hp : p.quote = none) {text : List Char}
    (h : ∀ c ∈ text, isFlat c ∧ (word → c ≠ ' ')) : walk word p text = some p := by
  induction text with
  | nil => rfl
  | cons c rest ih =>
    obtain ⟨hflat, hspace⟩ := h c List.mem_cons_self
    have hc : ¬(word ∧ p = .top ∧ c = ' ') := fun hc => hspace hc.1 hc.2.2
    rw [walk, if_neg hc, after?_flat hp hflat, Option.bind_some]
    exact ih fun d hd => h d (List.mem_cons_of_mem c hd)

theorem isFlat_of_isNameChar {c : Char} (h : isNameChar c) : isFlat c ∧ c ≠ ' ' := by
  constructor
  · rw [isFlat, Bool.not_eq_true', List.contains_eq_mem, decide_eq_false_iff_not]
    intro hmem
    simp only [List.mem_cons, List.not_mem_nil, or_false] at hmem
    rcases hmem with rfl | rfl | rfl | rfl | rfl | rfl <;> exact absurd h (by decide)
  · rintro rfl
    exact absurd h (by decide)

theorem isWord_of_isName {text : List Char} (h : isName text) : IsWord text := by
  rw [isName, Bool.and_eq_true, List.all_eq_true] at h
  refine walk_flat rfl fun c hc => ?_
  have hchar := isFlat_of_isNameChar (h.2 c hc)
  exact ⟨hchar.1, fun _ => hchar.2⟩

theorem isClosed_of_isPhrase {text : List Char} (h : isPhrase text) : IsClosed text := by
  rw [isPhrase, List.all_eq_true] at h
  refine walk_flat rfl fun c hc => ⟨?_, by simp⟩
  rcases Bool.or_eq_true_iff.1 (h c hc) with hchar | hchar
  · exact (isFlat_of_isNameChar hchar).1
  · rw [beq_iff_eq] at hchar
    rw [hchar]
    rfl

theorem isDigit_flat {c : Char} (h : c.isDigit) : isFlat c ∧ c ≠ ' ' := by
  constructor
  · rw [isFlat, Bool.not_eq_true', List.contains_eq_mem, decide_eq_false_iff_not]
    intro hmem
    simp only [List.mem_cons, List.not_mem_nil, or_false] at hmem
    rcases hmem with rfl | rfl | rfl | rfl | rfl | rfl <;> contradiction
  · rintro rfl
    contradiction

theorem walk_doubled {q : Char} (hq : isQuote q) (word : Bool) (depth : Nat) (text : List Char) :
    walk word ⟨some q, depth⟩ (doubled q text) = some ⟨some q, depth⟩ := by
  have hstep : ∀ (c : Char) (rest : List Char),
      walk word ⟨some q, depth⟩ (c :: rest) = walk word ⟨quoteAfter (some q) c, depth⟩ rest := by
    intro c rest
    simp [walk, Place.after?, Place.top]
  induction text with
  | nil => rfl
  | cons c rest ih =>
    unfold doubled
    split
    next hc =>
      subst hc
      have hopen : walk word ⟨none, depth⟩ (c :: doubled c rest) =
          walk word ⟨some c, depth⟩ (doubled c rest) := by
        have hspace : ¬(word ∧ (⟨none, depth⟩ : Place) = .top ∧ c = ' ') := by
          rintro ⟨-, -, rfl⟩
          rcases hq with h | h <;> contradiction
        rw [walk, if_neg hspace]
        rcases hq with rfl | rfl <;> rfl
      rw [hstep, quoteAfter_close, hopen, ih]
    next hc => rw [hstep, quoteAfter_other hc, ih]

theorem enclose_word {q : Char} (hq : isQuote q) (text : String) :
    IsWord (enclose q text).toList := by
  have hlist : (enclose q text).toList = [q] ++ (doubled q text.toList ++ [q]) := by simp [enclose]
  have hopen : walk true .top [q] = some ⟨some q, 0⟩ := by
    rcases hq with rfl | rfl <;> rfl
  have hclose : walk true ⟨some q, 0⟩ [q] = some .top := by
    rcases hq with rfl | rfl <;> rfl
  rw [hlist]
  exact walk_trans hopen (walk_trans (walk_doubled hq true 0 text.toList) hclose)

theorem identifier_word (name : String) : IsWord (identifier name).toList :=
  enclose_word (.inl rfl) name

theorem literal_word (text : String) : IsWord (literal text).toList :=
  enclose_word (.inr rfl) text

theorem after?_quote {p q : Place} {c : Char} (h : p.after? c = some q) :
    q.quote = quoteAfter p.quote c := by
  obtain ⟨quote, depth⟩ := p
  cases quote with
  | some quote =>
    cases h
    rfl
  | none =>
    unfold Place.after? at h
    simp only [Option.isSome_none, Bool.false_eq_true, if_false] at h
    split at h
    next hc =>
      cases h
      rcases hc with rfl | rfl <;> rfl
    · split at h
      next hc =>
        cases depth with
        | zero => contradiction
        | succ depth =>
          cases h
          rcases hc with rfl | rfl <;> rfl
      · cases h
        rfl

theorem walk_placeholder {word : Bool} {p : Place} (hp : p.quote = none) (n : Nat) :
    walk word p (placeholder n).toList = some p := by
  rw [placeholder_toList]
  refine walk_flat hp fun c hc => ?_
  rcases List.mem_cons.1 hc with rfl | hdigit
  · exact ⟨rfl, fun _ => by decide⟩
  · have hchar := isDigit_flat (Nat.isDigit_of_mem_toDigits (by decide) (by decide) hdigit)
    exact ⟨hchar.1, fun _ => hchar.2⟩

theorem walk_numbered (word : Bool) (p : Place) (next : Nat) (text : List Char) :
    walk word p (numbered p.quote next text) = walk word p text := by
  induction text generalizing p next with
  | nil => rfl
  | cons c rest ih =>
    rw [numbered]
    split
    next hc =>
      obtain ⟨hp, rfl⟩ := hc
      have hstep : walk word p ('?' :: rest) = walk word p rest := by
        rw [walk, if_neg (by simp), after?_flat hp rfl, Option.bind_some]
      rw [walk_append, walk_placeholder hp, Option.bind_some, hstep, ← hp, ih]
    next hc =>
      rw [walk, walk]
      split
      · rfl
      · cases hafter : p.after? c with
        | none => rfl
        | some q => rw [Option.bind_some, Option.bind_some, ← after?_quote hafter, ih]

theorem IsWord.numbered {text : List Char} (h : IsWord text) (next : Nat) :
    IsWord (numbered none next text) := by
  unfold IsWord
  have hwalk := walk_numbered true .top next text
  exact hwalk.trans h

theorem eq_of_numbered {inside : Option Char} {next : Nat} {text word : List Char}
    (h : numbered inside next text = word) (hw : '$' ∉ word) : text = word := by
  induction text generalizing inside next word with
  | nil =>
    rw [← h]
    rfl
  | cons c rest ih =>
    subst h
    rw [numbered] at hw ⊢
    split at hw
    next hc =>
      rw [placeholder_toList] at hw
      exact absurd (List.mem_append_left _ List.mem_cons_self) hw
    next hc =>
      rw [if_neg hc]
      rw [List.mem_cons, not_or] at hw
      exact congrArg (List.cons c) (ih rfl hw.2)

theorem head?_numbered {inside : Option Char} {next : Nat} {text : List Char}
    (h : (numbered inside next text).head? = some '(') : text.head? = some '(' := by
  cases text with
  | nil => exact h
  | cons c rest =>
    rw [numbered] at h
    split at h
    next hc =>
      rw [placeholder_toList] at h
      simp at h
    next hc => exact h

def isForeign (text : List Char) : Bool :=
  text.any fun c => !(['A', 'D', 'N', 'O', 'R', 'T'].contains c)

/-- A word that stands for a value where it stands. -/
structure IsTerm (text : List Char) : Prop where
  word : IsWord text
  foreign : isForeign text

theorem IsTerm.ne {text connective : List Char} (h : IsTerm text)
    (hc : isForeign connective = false) : text ≠ connective := by
  rintro rfl
  have hforeign := h.foreign
  rw [hc] at hforeign
  contradiction

theorem isForeign_append (a b : List Char) :
    isForeign (a ++ b) = (isForeign a || isForeign b) := by
  simp [isForeign]

theorem IsTerm.append {a b : List Char} (ha : IsTerm a) (hb : IsWord b) : IsTerm (a ++ b) := by
  refine ⟨ha.word.append hb, ?_⟩
  rw [isForeign_append, ha.foreign, Bool.true_or]

theorem literal_term (text : String) : IsTerm (literal text).toList := by
  refine ⟨literal_word text, ?_⟩
  simp [literal, enclose, isForeign]

theorem identifier_term (name : String) : IsTerm (identifier name).toList := by
  refine ⟨identifier_word name, ?_⟩
  simp [identifier, enclose, isForeign]

theorem IsTerm.call {function arguments : List Char} (hf : isName function)
    (h : IsClosed arguments) :
    IsTerm (function ++ ("(".toList ++ (arguments ++ ")".toList))) := by
  refine ⟨(isWord_of_isName hf).append h.parenthesized, ?_⟩
  rw [isForeign_append, isForeign_append, Bool.or_left_comm]
  rfl

theorem steps_word (segments : List String) : IsWord (steps segments).toList := by
  induction segments with
  | nil => rfl
  | cons segment rest ih =>
    have h : (steps (segment :: rest)).toList =
        "->".toList ++ ((literal segment).toList ++ (steps rest).toList) := by
      simp [steps, String.toList_join]
    have harrow : IsWord "->".toList := by decide
    rw [h]
    exact harrow.append ((literal_word segment).append ih)

theorem jsonPath_term (field : String) : IsTerm (jsonPath field).toList := by
  unfold jsonPath
  split
  next column path h =>
    rw [String.toList_append]
    exact (identifier_term column).append (steps_word path)
  next h => exact identifier_term ""

theorem jsonTextPath_term (field : String) : IsTerm (jsonTextPath field).toList := by
  unfold jsonTextPath
  split
  next h => exact identifier_term ""
  next column h => exact identifier_term column
  next column path _ h =>
    simp only [String.toList_append, List.append_assoc]
    have harrow : IsWord "->>".toList := by decide
    have hlast := harrow.append (literal_word (path.getLast?.getD ""))
    exact (identifier_term column).append ((steps_word path.dropLast).append hlast)

theorem markers_closed {α : Type} (items : List α) : IsClosed (markers items).toList := by
  unfold markers
  induction items with
  | nil => rfl
  | cons a rest ih =>
    cases rest with
    | nil =>
      have hmark : IsClosed "?".toList := by decide
      simpa using hmark
    | cons b rest =>
      have hmark : IsClosed "?, ".toList := by decide
      rw [List.map_cons, List.map_cons, String.intercalate_cons_cons, String.toList_append]
      exact hmark.append ih

theorem IsClosed.within {text : List Char} (h : IsClosed text) (depth : Nat) :
    walk true ⟨none, depth + 1⟩ text = some ⟨none, depth + 1⟩ := by
  induction depth with
  | zero => exact walk_deeper h
  | succ depth ih => exact walk_deeper ih

theorem Expr.IsTight.isTerm {e : Expr} (h : e.IsTight) : IsTerm e.template.toList := by
  induction e with
  | null => exact ⟨by decide, by decide⟩
  | zero => exact ⟨by decide, by decide⟩
  | param value =>
    have hmark : IsTerm "?".toList := ⟨by decide, by decide⟩
    exact hmark
  | quoted text => exact literal_term text
  | column name => exact identifier_term name
  | jsonAt field => exact jsonPath_term field
  | textAt field => exact jsonTextPath_term field
  | cast e type ih =>
    simp only [template_cast, String.toList_append, List.append_assoc]
    have hcast : IsWord "::".toList := by decide
    exact (ih h.1).append (hcast.append (isWord_of_isName h.2))
  | castAs e type ih =>
    simp only [template_castAs, String.toList_append, List.append_assoc]
    have he := (ih h.1).word.isClosed.within 1
    have htype := (isClosed_of_isPhrase h.2).within 0
    have hopen : walk true .top "CAST((".toList = some ⟨none, 2⟩ := rfl
    have has : walk true ⟨none, 2⟩ ") AS ".toList = some ⟨none, 1⟩ := rfl
    refine ⟨walk_trans hopen (walk_trans he (walk_trans has (walk_trans htype rfl))), ?_⟩
    rw [isForeign_append]
    rfl
  | paren e ih =>
    simp only [template_paren, String.toList_append, List.append_assoc]
    refine ⟨(ih h).word.isClosed.parenthesized, ?_⟩
    rw [isForeign_append]
    rfl
  | keyText e key ih =>
    simp only [template_keyText, String.toList_append, List.append_assoc]
    have harrow : IsWord "->>".toList := by decide
    exact (ih h).append (harrow.append (literal_word key))
  | array items =>
    simp only [template_array, String.toList_append, List.append_assoc]
    have hitems := (markers_closed items).within 0
    have hopen : walk true .top "ARRAY[".toList = some ⟨none, 1⟩ := rfl
    refine ⟨walk_trans hopen (walk_trans hitems rfl), ?_⟩
    rw [isForeign_append]
    rfl
  | elements e ih =>
    simp only [template_elements, String.toList_append, List.append_assoc]
    have he := (ih h).word.isClosed.within 1
    have hopen : walk true .top "ARRAY(SELECT jsonb_array_elements_text(".toList =
      some ⟨none, 2⟩ := rfl
    refine ⟨walk_trans hopen (walk_trans he rfl), ?_⟩
    rw [isForeign_append]
    rfl
  | combine operation a b => exact h.elim
  | apply function a ih =>
    have hcall := IsTerm.call h.1 (ih h.2).word.isClosed
    simpa only [template_apply, String.toList_append, List.append_assoc] using hcall
  | apply₂ function a b iha ihb =>
    have hcomma : IsClosed ", ".toList := by decide
    have ha := (iha h.2.1).word.isClosed
    have hb := (ihb h.2.2).word.isClosed
    have hcall := IsTerm.call h.1 (ha.append (hcomma.append hb))
    simpa only [template_apply₂, String.toList_append, List.append_assoc] using hcall
  | apply₃ function a b c iha ihb ihc =>
    have hcomma : IsClosed ", ".toList := by decide
    have ha := (iha h.2.1).word.isClosed
    have hb := (ihb h.2.2.1).word.isClosed
    have hc := (ihc h.2.2.2).word.isClosed
    have hcall := IsTerm.call h.1 (ha.append (hcomma.append (hb.append (hcomma.append hc))))
    simpa only [template_apply₃, String.toList_append, List.append_assoc] using hcall

end DocSql.Sql
