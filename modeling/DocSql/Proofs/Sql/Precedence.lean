import DocSql.Proofs.Sql.Reading

/-!
What joined conditions read as. Operands stand next to every connective,
conjunctions next to `OR` and inside parentheses, disjunctions only inside
parentheses or alone.
-/
namespace DocSql.Sql

def IsOperand (text : List Char) (f : Formula String) : Prop :=
  ∃ ws, Spells text ws ∧ andWord ∉ ws ∧ orWord ∉ ws ∧
    ∀ depth, text.length ≤ depth → readOperand (readTo depth) ws = f

def IsConjunction (text : List Char) (fs : List (Formula String)) : Prop :=
  ∃ ws, Spells text ws ∧ orWord ∉ ws ∧
    ∀ depth, text.length ≤ depth → (ws.splitOn andWord).map (readOperand (readTo depth)) = fs

def IsDisjunction (text : List Char) (fs : List (Formula String)) : Prop :=
  ∃ ws, Spells text ws ∧
    ∀ depth, text.length ≤ depth → (ws.splitOn orWord).map (readConjunction (readTo depth)) = fs

theorem Spells.joined_by {a b : List Char} {ws vs : List (List Char)} (ha : Spells a ws)
    {connective : List Char} (hc : IsWord connective) (hb : Spells b vs) :
    Spells (a ++ (' ' :: connective ++ ' ' :: b)) (ws ++ connective :: vs) :=
  ha.append ((Spells.single hc).append hb)

theorem IsOperand.isConjunction {text : List Char} {f : Formula String} (h : IsOperand text f) :
    IsConjunction text [f] := by
  obtain ⟨ws, hspells, hand, hor, hread⟩ := h
  refine ⟨ws, hspells, hor, fun depth hd => ?_⟩
  rw [List.splitOn_eq_singleton hand, List.map_singleton, hread depth hd]

theorem IsConjunction.isDisjunction {text : List Char} {fs : List (Formula String)}
    (h : IsConjunction text fs) : IsDisjunction text [.all fs] := by
  obtain ⟨ws, hspells, hor, hread⟩ := h
  refine ⟨ws, hspells, fun depth hd => ?_⟩
  rw [List.splitOn_eq_singleton hor, List.map_singleton, readConjunction, hread depth hd]

theorem IsConjunction.and {a b : List Char} {fs gs : List (Formula String)}
    (ha : IsConjunction a fs) (hb : IsConjunction b gs) :
    IsConjunction (a ++ (" AND ".toList ++ b)) (fs ++ gs) := by
  obtain ⟨ws, hws, hor, hread⟩ := ha
  obtain ⟨vs, hvs, hor', hread'⟩ := hb
  have hword : IsWord andWord := by decide
  refine ⟨ws ++ andWord :: vs, hws.joined_by hword hvs, ?_, fun depth hd => ?_⟩
  · rw [List.mem_append, List.mem_cons, not_or, not_or]
    exact ⟨hor, by decide, hor'⟩
  · simp only [List.length_append] at hd
    rw [List.splitOn_append_cons_self, List.map_append, hread depth (by omega),
      hread' depth (by omega)]

theorem IsDisjunction.or {a b : List Char} {fs gs : List (Formula String)}
    (ha : IsDisjunction a fs) (hb : IsDisjunction b gs) :
    IsDisjunction (a ++ (" OR ".toList ++ b)) (fs ++ gs) := by
  obtain ⟨ws, hws, hread⟩ := ha
  obtain ⟨vs, hvs, hread'⟩ := hb
  have hword : IsWord orWord := by decide
  refine ⟨ws ++ orWord :: vs, hws.joined_by hword hvs, fun depth hd => ?_⟩
  simp only [List.length_append] at hd
  rw [List.splitOn_append_cons_self, List.map_append, hread depth (by omega),
    hread' depth (by omega)]

theorem IsDisjunction.readTo_eq {text : List Char} {fs : List (Formula String)}
    (h : IsDisjunction text fs) {depth : Nat} (hd : text.length < depth) :
    readTo depth text = .any fs := by
  obtain ⟨ws, hspells, hread⟩ := h
  cases depth with
  | zero => exact absurd hd (Nat.not_lt_zero _)
  | succ depth => rw [readTo, hspells.words_eq, hread depth (Nat.le_of_lt_succ hd)]

theorem IsDisjunction.read_eq {text : String} {fs : List (Formula String)}
    (h : IsDisjunction text.toList fs) : read text = .any fs :=
  h.readTo_eq (Nat.lt_succ_self _)

theorem IsOperand.read_eq {text : String} {f : Formula String} (h : IsOperand text.toList f) :
    read text = f :=
  h.isConjunction.isDisjunction.read_eq

/-- A text of one word that is neither a connective nor in parentheses, or of
more words, none of which is a connective where it could be one. -/
theorem isOperand_atom {text : List Char} {word : List Char} {rest : List (List Char)}
    (h : Spells text (word :: rest)) (hand : andWord ∉ word :: rest) (hor : orWord ∉ word :: rest)
    (hnot : word ≠ notWord) (hopen : rest = [] → interior? word = none) :
    IsOperand text (atom (word :: rest)) := by
  refine ⟨_, h, hand, hor, fun depth _ => ?_⟩
  rw [readOperand, if_neg hnot]
  split
  next hrest =>
    have hnone := hopen (List.isEmpty_iff.1 hrest)
    rw [hnone, List.isEmpty_iff.1 hrest]
    rfl
  next => rfl

theorem IsOperand.negated {text : List Char} {f : Formula String} (h : IsOperand text f) :
    IsOperand ("NOT ".toList ++ text) (.not f) := by
  obtain ⟨ws, hspells, hand, hor, hread⟩ := h
  have hword : IsWord notWord := by decide
  refine ⟨notWord :: ws, (Spells.single hword).append hspells, ?_, ?_, fun depth hd => ?_⟩
  · rw [List.mem_cons, not_or]
    exact ⟨by decide, hand⟩
  · rw [List.mem_cons, not_or]
    exact ⟨by decide, hor⟩
  · rw [List.length_append] at hd
    rw [readOperand, if_pos rfl, hread depth (by omega)]

theorem interior?_parenthesized {text : List Char} (h : IsClosed text) :
    interior? ("(".toList ++ (text ++ ")".toList)) = some text := by
  have hlist : "(".toList ++ (text ++ ")".toList) = '(' :: (text ++ [')']) := rfl
  rw [hlist, interior?]
  have hlast : (text ++ [')']).getLast? = some ')' := by simp
  have hinit : (text ++ [')']).dropLast = text := by simp
  rw [hinit, if_pos ⟨hlast, h⟩]

theorem IsDisjunction.parenthesized {text : List Char} {fs : List (Formula String)}
    (h : IsDisjunction text fs) : IsOperand ("(".toList ++ (text ++ ")".toList)) (.any fs) := by
  have hclosed : IsClosed text := by
    obtain ⟨ws, hspells, -⟩ := h
    exact hspells.isClosed
  have hkey : ∀ word : List Char, word.head? ≠ some '(' →
      word ∉ ["(".toList ++ (text ++ ")".toList)] := by
    intro word hw hmem
    rw [List.mem_singleton] at hmem
    rw [hmem] at hw
    exact hw rfl
  refine ⟨_, .single hclosed.parenthesized, hkey _ (by decide), hkey _ (by decide),
    fun depth hd => ?_⟩
  have hnot : "(".toList ++ (text ++ ")".toList) ≠ notWord := by
    intro heq
    exact hkey notWord (by decide) (by rw [heq]; exact List.mem_singleton_self _)
  rw [readOperand, if_neg hnot, List.isEmpty_nil, if_pos rfl, interior?_parenthesized hclosed]
  refine h.readTo_eq ?_
  simp only [List.length_append] at hd
  have hfirst : "(".toList.length = 1 := rfl
  omega

theorem isConjunction_intercalate {texts : List (List Char)}
    {fss : List (List (Formula String))} (h : List.Forall₂ IsConjunction texts fss)
    (hne : texts ≠ []) : IsConjunction (" AND ".toList.intercalate texts) fss.flatten := by
  induction h with
  | nil => contradiction
  | @cons text fs texts fss hfirst hrest ih =>
    cases hrest with
    | nil => simpa using hfirst
    | @cons other gs texts fss hother hrest =>
      rw [List.intercalate_cons_cons, List.append_assoc, List.flatten_cons]
      exact hfirst.and (ih (by simp))

theorem isDisjunction_intercalate {texts : List (List Char)}
    {fss : List (List (Formula String))} (h : List.Forall₂ IsConjunction texts fss)
    (hne : texts ≠ []) : IsDisjunction (" OR ".toList.intercalate texts) (fss.map .all) := by
  induction h with
  | nil => contradiction
  | @cons text fs texts fss hfirst hrest ih =>
    cases hrest with
    | nil => simpa using hfirst.isDisjunction
    | @cons other gs texts fss hother hrest =>
      rw [List.intercalate_cons_cons, List.append_assoc, List.map_cons]
      exact hfirst.isDisjunction.or (ih (by simp))

end DocSql.Sql
