import DocSql.Proofs.Sql.Words

/-!
Fragments are operands. The words of an atom are never connectives, so it reads
as one leaf; a negated atom starts with its `NOT`, and conditions that join two
atoms stand in parentheses.
-/
namespace DocSql.Sql

/-- The words of a condition in which nothing connects. -/
structure IsSimple (text : List Char) (word : List Char) (rest : List (List Char)) : Prop where
  spells : Spells text (word :: rest)
  noAnd : andWord ∉ word :: rest
  noOr : orWord ∉ word :: rest
  noNot : word ≠ notWord
  single : rest = [] → word.head? ≠ some '('

theorem interior?_of_head {word : List Char} (h : word.head? ≠ some '(') :
    interior? word = none := by
  unfold interior?
  split
  · exact absurd rfl h
  · rfl

theorem IsSimple.isOperand {text word : List Char} {rest : List (List Char)}
    (h : IsSimple text word rest) : IsOperand text (atom (word :: rest)) :=
  isOperand_atom h.spells h.noAnd h.noOr h.noNot fun hrest => interior?_of_head (h.single hrest)

def numberedWords (next : Nat) : List (List Char) → List (List Char)
  | [] => []
  | word :: rest => numbered none next word :: numberedWords (next + markerCount none word) rest

theorem mem_of_numberedWords {connective : List Char} (hc : '$' ∉ connective)
    {ws : List (List Char)} {next : Nat} (h : connective ∈ numberedWords next ws) :
    connective ∈ ws := by
  induction ws generalizing next with
  | nil => exact h
  | cons word rest ih =>
    rcases List.mem_cons.1 h with h | h
    · rw [eq_of_numbered h.symm hc]
      exact List.mem_cons_self
    · exact List.mem_cons_of_mem word (ih h)

theorem quoteAfter_walk {word : Bool} {p q : Place} {text : List Char}
    (h : walk word p text = some q) : text.foldl quoteAfter p.quote = q.quote := by
  induction text generalizing p with
  | nil =>
    cases h
    rfl
  | cons c rest ih =>
    rw [walk] at h
    split at h
    · contradiction
    · obtain ⟨r, hr, hrest⟩ := Option.bind_eq_some_iff.1 h
      rw [List.foldl_cons, ← after?_quote hr]
      exact ih hrest

theorem Spells.numbered {text : List Char} {ws : List (List Char)} (h : Spells text ws)
    (next : Nat) : Spells (numbered none next text) (numberedWords next ws) := by
  obtain ⟨hne, hwords, rfl⟩ := h
  induction ws generalizing next with
  | nil => contradiction
  | cons word rest ih =>
    have hword := hwords word List.mem_cons_self
    by_cases hrest : rest = []
    · subst hrest
      have hjoin : joinWords [word] = word := by simp [joinWords]
      rw [hjoin]
      exact .single (hword.numbered next)
    · have hmore := ih (next + markerCount none word) hrest
        fun w hw => hwords w (List.mem_cons_of_mem word hw)
      have hquote : word.foldl quoteAfter none = none := quoteAfter_walk hword
      rw [joinWords_cons word hrest, numbered_append, hquote]
      exact (Spells.single (hword.numbered next)).append hmore

theorem IsSimple.numbered {text word : List Char} {rest : List (List Char)}
    (h : IsSimple text word rest) (next : Nat) :
    IsSimple (numbered none next text) (numbered none next word)
      (numberedWords (next + markerCount none word) rest) := by
  refine ⟨h.spells.numbered next, ?_, ?_, ?_, ?_⟩
  · exact fun hmem => h.noAnd (mem_of_numberedWords (by decide) hmem)
  · exact fun hmem => h.noOr (mem_of_numberedWords (by decide) hmem)
  · exact fun heq => h.noNot (eq_of_numbered heq (by decide))
  · intro hrest hhead
    cases rest with
    | nil => exact h.single rfl (head?_numbered hhead)
    | cons other more => contradiction

def IsInner (word : List Char) : Prop := IsWord word ∧ word ≠ andWord ∧ word ≠ orWord

instance (word : List Char) : Decidable (IsInner word) := inferInstanceAs (Decidable (_ ∧ _))

theorem IsTerm.isInner {word : List Char} (h : IsTerm word) : IsInner word :=
  ⟨h.word, h.ne rfl, h.ne rfl⟩

theorem IsTerm.isSimple {text word : List Char} (h : IsTerm word) {rest : List (List Char)}
    (hne : rest ≠ []) (hwords : ∀ w ∈ rest, IsInner w)
    (ht : text = word ++ ' ' :: joinWords rest) : IsSimple text word rest := by
  have hrest : Spells (joinWords rest) rest := ⟨hne, fun w hw => (hwords w hw).1, rfl⟩
  refine ⟨?_, ?_, ?_, h.ne rfl, fun hnil => absurd hnil hne⟩
  · rw [ht]
    exact (Spells.single h.word).append hrest
  · rw [List.mem_cons, not_or]
    exact ⟨(h.ne rfl).symm, fun hmem => (hwords _ hmem).2.1 rfl⟩
  · rw [List.mem_cons, not_or]
    exact ⟨(h.ne rfl).symm, fun hmem => (hwords _ hmem).2.2 rfl⟩

theorem IsTerm.isSimple_single {word : List Char} (h : IsTerm word) (hhead : word.head? ≠ some '(') :
    IsSimple word word [] := by
  refine ⟨.single h.word, ?_, ?_, h.ne rfl, fun _ => hhead⟩
  · rw [List.mem_singleton]
    exact (h.ne rfl).symm
  · rw [List.mem_singleton]
    exact (h.ne rfl).symm

theorem listed_term {α : Type} (items : List α) :
    IsTerm ("(".toList ++ ((markers items).toList ++ ")".toList)) := by
  refine ⟨(markers_closed items).parenthesized, ?_⟩
  rw [isForeign_append]
  rfl

theorem symbol_inner (relation : Relation) : IsInner relation.symbol.toList := by
  cases relation <;> decide

namespace Predicate

theorem IsAtom.isSimple {p : Predicate} (h : p.IsAtom) :
    ∃ word rest, IsSimple p.template.toList word rest := by
  cases h with
  | always => exact ⟨"TRUE".toList, [], ⟨.single (by decide), by decide, by decide, by decide,
      by decide⟩⟩
  | @isNull e h =>
    refine ⟨_, ["IS".toList, "NULL".toList], h.isTerm.isSimple (by simp) (by decide) ?_⟩
    rw [template, String.toList_append]
    rfl
  | @isNotNull e h =>
    refine ⟨_, ["IS".toList, "NOT".toList, "NULL".toList],
      h.isTerm.isSimple (by simp) (by decide) ?_⟩
    rw [template, String.toList_append]
    rfl
  | @holds function a b h =>
    -- The only atom of one word: it starts with a name, so it is not taken for
    -- a condition in parentheses.
    refine ⟨_, [], h.isTerm.isSimple_single ?_⟩
    have hname := h.1
    rw [Expr.template_apply₂]
    simp only [String.toList_append, List.append_assoc]
    cases hf : function.toList with
    | nil =>
      rw [hf] at hname
      contradiction
    | cons c rest =>
      rw [hf, isName, List.all_cons, Bool.and_eq_true, Bool.and_eq_true] at hname
      intro hhead
      have hc : c = '(' := Option.some.inj hhead
      rw [hc] at hname
      exact absurd hname.2.1 (by decide)
  | @compare left right relation hl hr =>
    refine ⟨_, [relation.symbol.toList, right.template.toList],
      hl.isTerm.isSimple (by simp) ?_ ?_⟩
    · rw [List.forall_mem_cons, List.forall_mem_singleton]
      exact ⟨symbol_inner relation, hr.isTerm.isInner⟩
    · rw [template]
      simp [joinWords]
  | @isIn e items h =>
    refine ⟨_, ["IN".toList, "(".toList ++ ((markers items).toList ++ ")".toList)],
      h.isTerm.isSimple (by simp) ?_ ?_⟩
    · rw [List.forall_mem_cons, List.forall_mem_singleton]
      exact ⟨by decide, (listed_term items).isInner⟩
    · rw [template]
      simp [joinWords]
  | @notIn e items h =>
    refine ⟨_, ["NOT".toList, "IN".toList, "(".toList ++ ((markers items).toList ++ ")".toList)],
      h.isTerm.isSimple (by simp) ?_ ?_⟩
    · rw [List.forall_mem_cons, List.forall_mem_cons, List.forall_mem_singleton]
      exact ⟨by decide, by decide, (listed_term items).isInner⟩
    · rw [template]
      simp [joinWords]
  | @nearest distance limit h =>
    cases limit with
    | some limit =>
      refine ⟨_, ["<=".toList, "?".toList], h.isTerm.isSimple (by simp) (by decide) ?_⟩
      rw [template, String.toList_append]
      rfl
    | none =>
      refine ⟨_, ["IS".toList, "NOT".toList, "NULL".toList],
        h.isTerm.isSimple (by simp) (by decide) ?_⟩
      rw [template, String.toList_append]
      rfl

def numberedTexts (next : Nat) : List Predicate → List (List Char)
  | [] => []
  | p :: rest =>
    numbered none next p.template.toList :: numberedTexts (next + p.params.length) rest

theorem numberedTexts_append (next : Nat) (ps qs : List Predicate) :
    numberedTexts next (ps ++ qs) =
      numberedTexts next ps ++ numberedTexts (next + (paramsAll ps).length) qs := by
  induction ps generalizing next with
  | nil => rfl
  | cons p rest ih =>
    simp only [List.cons_append, numberedTexts, paramsAll, List.length_append, ih, Nat.add_assoc]

theorem numbered_intercalate {joint : String} (hj : isPlain joint.toList) {ps : List Predicate}
    (h : ∀ p ∈ ps, p.IsPlain) (next : Nat) :
    numbered none next (joint.intercalate (templates ps)).toList =
      joint.toList.intercalate (numberedTexts next ps) := by
  induction ps generalizing next with
  | nil =>
    simp only [templates, numberedTexts]
    rw [String.intercalate_nil]
    rfl
  | cons p rest ih =>
    have hp := aligned (h p List.mem_cons_self)
    have hrest := ih (fun q hq => h q (List.mem_cons_of_mem p hq)) (next + p.params.length)
    cases rest with
    | nil => simp [templates, numberedTexts]
    | cons q rest =>
      simp only [templates, numberedTexts] at hrest ⊢
      rw [String.intercalate_cons_cons, String.toList_append, String.toList_append,
        List.append_assoc, hp.numbered_append, Aligned.numbered_plain_append hj, hrest,
        List.intercalate_cons_cons, List.append_assoc]

theorem numbered_paren {p : Predicate} (h : p.IsPlain) (next : Nat) :
    numbered none next (paren p).template.toList =
      "(".toList ++ (numbered none next p.template.toList ++ ")".toList) := by
  have hclose : isPlain ")".toList := rfl
  rw [template, String.toList_append, String.toList_append, List.append_assoc,
    Aligned.numbered_plain_append rfl, (aligned h).numbered_append, numbered_plain hclose]

theorem numbered_not (p : Predicate) (next : Nat) :
    numbered none next (not p).template.toList =
      "NOT ".toList ++ numbered none next p.template.toList := by
  rw [template, String.toList_append, Aligned.numbered_plain_append rfl]

theorem numberedTexts_ne_nil {ps : List Predicate} (h : ps ≠ []) (next : Nat) :
    numberedTexts next ps ≠ [] := by
  cases ps with
  | nil => contradiction
  | cons p rest => simp [numberedTexts]

theorem or_isOperand {ps : List Predicate} (h : ∀ p ∈ ps, p.IsPlain) (hne : ps ≠ []) {next : Nat}
    {fss : List (List (Formula String))}
    (hall : List.Forall₂ IsConjunction (numberedTexts next ps) fss) :
    IsOperand (numbered none next (paren (or ps)).template.toList) (.any (fss.map .all)) := by
  have hplain : (or ps).IsPlain := allPlain_iff.2 h
  have htexts := isDisjunction_intercalate hall (numberedTexts_ne_nil hne next)
  rw [numbered_paren hplain, template, numbered_intercalate rfl h]
  exact htexts.parenthesized

theorem and_isOperand {ps : List Predicate} (h : ∀ p ∈ ps, p.IsPlain) (hne : ps ≠ []) {next : Nat}
    {fss : List (List (Formula String))}
    (hall : List.Forall₂ IsConjunction (numberedTexts next ps) fss) :
    IsOperand (numbered none next (paren (and ps)).template.toList) (.all fss.flatten) := by
  have hplain : (and ps).IsPlain := allPlain_iff.2 h
  have htexts := isConjunction_intercalate hall (numberedTexts_ne_nil hne next)
  rw [numbered_paren hplain, template, numbered_intercalate rfl h]
  exact htexts.isDisjunction.parenthesized

theorem not_isOperand {p : Predicate} {next : Nat} {f : Formula String}
    (h : IsOperand (numbered none next p.template.toList) f) :
    IsOperand (numbered none next (not p).template.toList) (.not f) := by
  rw [numbered_not]
  exact h.negated

theorem IsAtom.isOperand {p : Predicate} (h : p.IsAtom) (next : Nat) :
    ∃ f, IsOperand (numbered none next p.template.toList) f := by
  obtain ⟨word, rest, hsimple⟩ := h.isSimple
  exact ⟨_, (hsimple.numbered next).isOperand⟩

theorem IsFragment.isOperand {p : Predicate} (h : p.IsFragment) (next : Nat) :
    ∃ f, IsOperand (numbered none next p.template.toList) f := by
  have hplain := h.isPlain
  cases h with
  | atom h => exact h.isOperand next
  | @negated p h =>
    obtain ⟨f, hf⟩ := h.isOperand next
    exact ⟨_, not_isOperand hf⟩
  | @anyOf p q hp hq =>
    obtain ⟨f, hf⟩ := hp.isOperand next
    obtain ⟨g, hg⟩ := hq.isOperand (next + p.params.length)
    have htexts := List.Forall₂.cons hf.isConjunction (.cons hg.isConjunction .nil)
    exact ⟨_, or_isOperand (allPlain_iff.1 hplain) (by simp) htexts⟩
  | @allOf p q hp hq =>
    obtain ⟨f, hf⟩ := hp.isOperand next
    obtain ⟨g, hg⟩ := hq.isOperand (next + p.params.length)
    have htexts := List.Forall₂.cons hf.isConjunction (.cons hg.isConjunction .nil)
    exact ⟨_, and_isOperand (allPlain_iff.1 hplain) (by simp) htexts⟩

theorem IsFragment.reads {p : Predicate} (h : p.IsFragment) (next : Nat) :
    IsOperand (numbered none next p.template.toList) (read (number next p.template)) := by
  obtain ⟨f, hf⟩ := h.isOperand next
  have hlist : (number next p.template).toList = numbered none next p.template.toList := by
    rw [number, String.toList_ofList]
  rw [← hlist] at hf ⊢
  rw [hf.read_eq]
  exact hf

theorem always_reads (next : Nat) :
    IsOperand (numbered none next always.template.toList) .always := by
  have h := IsFragment.reads (.atom .always) next
  have htext : number next always.template = "TRUE" := by
    rw [template, number, numbered_plain rfl, String.ofList_toList]
  rw [htext] at h
  exact h

end Predicate
end DocSql.Sql
