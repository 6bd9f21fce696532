import DocSql.Proofs.Sql.Texts
import DocSql.Proofs.Update.Paths

/-!
Names and texts stay within their quotes. A text is read by its quotes, where one
that is written twice stands for itself; the walks over a template take it for an
end and a new beginning instead, and still see the same characters outside. What a
token is read as therefore settles what the walks make of it, behind any text that
leaves no quote open. Main statement: `quoting_confines`.
-/
namespace DocSql.Sql

instance : DecidablePred isQuote := fun _ => inferInstanceAs (Decidable (_ ∨ _))

/-- A part of a text: what is quoted in it, or what stands outside quotes. -/
inductive Span
  | quoted (quote : Char) (text : List Char)
  | bare (text : List Char)
deriving DecidableEq

def bareBefore (c : Char) : List Span → List Span
  | .bare text :: rest => .bare (c :: text) :: rest
  | spans => .bare [c] :: spans

/-- The spans of a text that starts outside quotes, or inside a quote with some of the
quoted text read. Inside, a quote that is written twice stands for itself and a single
one ends the span; a text that ends before has no spans. -/
def spansFrom : Option (Char × List Char) → List Char → Option (List Span)
  | none, [] => some []
  | none, c :: rest =>
    if isQuote c then spansFrom (some (c, [])) rest
    else (spansFrom none rest).map (bareBefore c)
  | some _, [] => none
  | some (quote, text), [c] => if c = quote then some [.quoted quote text] else none
  | some (quote, text), c :: d :: rest =>
    if c = quote then
      if d = quote then spansFrom (some (quote, text ++ [quote])) rest
      else (spansFrom none (d :: rest)).map (.quoted quote text :: ·)
    else spansFrom (some (quote, text ++ [c])) (d :: rest)

def spans? (text : List Char) : Option (List Span) := spansFrom none text

def bareMarkers : List Span → Nat
  | [] => 0
  | .bare text :: rest => text.count '?' + bareMarkers rest
  | .quoted .. :: rest => bareMarkers rest

theorem bareMarkers_bareBefore (c : Char) (spans : List Span) :
    bareMarkers (bareBefore c spans) = (if c = '?' then 1 else 0) + bareMarkers spans := by
  unfold bareBefore
  split
  · simp only [bareMarkers, List.count_cons, beq_iff_eq]
    omega
  · simp [bareMarkers, List.count_cons]

/-- Behind a text that can be read a walk is outside quotes, and it has counted the
markers of what is read there. -/
theorem spansFrom_walk {inside : Option (Char × List Char)} {text : List Char} {spans : List Span}
    (h : spansFrom inside text = some spans) (hq : ∀ opened ∈ inside, isQuote opened.1) :
    text.foldl quoteAfter (inside.map Prod.fst) = none ∧
      markerCount (inside.map Prod.fst) text = bareMarkers spans := by
  induction inside, text using spansFrom.induct generalizing spans with
  | case1 =>
    cases h
    exact ⟨rfl, rfl⟩
  | case2 c rest hc ih =>
    rw [spansFrom, if_pos hc] at h
    obtain ⟨hclosed, hcount⟩ := ih h (by simpa using hc)
    have hmark : c ≠ '?' := (quote_not_mark hc).1
    simp only [Option.map_none, Option.map_some, List.foldl_cons, quoteAfter_quote hc, markerCount]
      at hclosed hcount ⊢
    exact ⟨hclosed, by simp [hmark, hcount]⟩
  | case3 c rest hc ih =>
    rw [spansFrom, if_neg hc] at h
    obtain ⟨behind, hbehind, rfl⟩ := Option.map_eq_some_iff.1 h
    obtain ⟨hclosed, hcount⟩ := ih hbehind (by simp)
    have hplain : quoteAfter none c = none := if_neg hc
    simp only [Option.map_none, List.foldl_cons, hplain, markerCount] at hclosed hcount ⊢
    exact ⟨hclosed, by simp [bareMarkers_bareBefore, hcount]⟩
  | case4 => cases h
  | case5 quote text =>
    rw [spansFrom, if_pos rfl] at h
    cases h
    simp [quoteAfter_close, markerCount, bareMarkers]
  | case6 quote text c hc =>
    rw [spansFrom, if_neg hc] at h
    cases h
  | case7 text quote rest ih =>
    -- The walk leaves the quote and is back inside one character later.
    rw [spansFrom, if_pos rfl, if_pos rfl] at h
    have hquote : isQuote quote := hq (quote, text) rfl
    obtain ⟨hclosed, hcount⟩ := ih h (by simpa using hquote)
    simp only [Option.map_some, List.foldl_cons, markerCount, quoteAfter_close,
      quoteAfter_quote hquote] at hclosed hcount ⊢
    exact ⟨hclosed, by simp [(quote_not_mark hquote).1, hcount]⟩
  | case8 text quote d rest hd ih =>
    rw [spansFrom, if_pos rfl, if_neg hd] at h
    obtain ⟨behind, hbehind, rfl⟩ := Option.map_eq_some_iff.1 h
    obtain ⟨hclosed, hcount⟩ := ih hbehind (by simp)
    rw [Option.map_some, List.foldl_cons, markerCount, quoteAfter_close]
    exact ⟨hclosed, by simpa [bareMarkers] using hcount⟩
  | case9 quote text c d rest hc ih =>
    rw [spansFrom, if_neg hc] at h
    obtain ⟨hclosed, hcount⟩ := ih h (by simpa using hq)
    rw [Option.map_some, List.foldl_cons, markerCount, quoteAfter_other hc]
    exact ⟨hclosed, by simpa using hcount⟩

/-- Behind a text, a token adds no marker, is not changed by numbering and leaves no
quote open. -/
structure Passes (before token : List Char) : Prop where
  closed : (before ++ token).foldl quoteAfter none = none
  unmarked : markerCount none (before ++ token) = markerCount none before
  kept : ∀ next, numbered none next (before ++ token) = numbered none next before ++ token

theorem Passes.of_spans {before token : List Char} {spans : List Span}
    (h : spans? token = some spans) (hm : bareMarkers spans = 0)
    (hb : before.foldl quoteAfter none = none) : Passes before token := by
  obtain ⟨hclosed, hcount⟩ := spansFrom_walk h (by simp)
  rw [Option.map_none] at hclosed hcount
  refine ⟨?_, ?_, fun next => ?_⟩
  · rw [List.foldl_append, hb, hclosed]
  · rw [markerCount_append, hb, hcount, hm, Nat.add_zero]
  · rw [numbered_append, hb, numbered_unmarked (hcount.trans hm)]

theorem spansFrom_other {quote c : Char} (text rest : List Char) (h : c ≠ quote) :
    spansFrom (some (quote, text)) (c :: rest) = spansFrom (some (quote, text ++ [c])) rest := by
  cases rest with
  | nil => simp [spansFrom, h]
  | cons d rest => rw [spansFrom, if_neg h]

theorem spansFrom_twice (quote : Char) (text rest : List Char) :
    spansFrom (some (quote, text)) (quote :: quote :: rest) =
      spansFrom (some (quote, text ++ [quote])) rest := by
  rw [spansFrom, if_pos rfl, if_pos rfl]

theorem spansFrom_end {quote : Char} (text : List Char) {rest : List Char}
    (h : rest.head? ≠ some quote) : spansFrom (some (quote, text)) (quote :: rest) =
      (spans? rest).map (.quoted quote text :: ·) := by
  cases rest with
  | nil =>
    rw [spansFrom, if_pos rfl]
    rfl
  | cons d rest =>
    have hd : d ≠ quote := by simpa using h
    rw [spansFrom, if_pos rfl, if_neg hd]
    rfl

theorem spansFrom_doubled {quote : Char} (text read : List Char) {rest : List Char}
    (h : rest.head? ≠ some quote) :
    spansFrom (some (quote, read)) (doubled quote text ++ quote :: rest) =
      (spans? rest).map (.quoted quote (read ++ text) :: ·) := by
  induction text generalizing read with
  | nil => rw [doubled, List.nil_append, spansFrom_end read h, List.append_nil]
  | cons c text ih =>
    have hread : read ++ c :: text = read ++ [c] ++ text := by simp
    rw [hread, ← ih, doubled]
    split
    next hc => rw [hc, List.cons_append, List.cons_append, spansFrom_twice]
    next hc => rw [List.cons_append, spansFrom_other _ _ hc]

theorem spans?_enclose_append {quote : Char} (hq : isQuote quote) (text : String)
    {rest : List Char} (h : rest.head? ≠ some quote) : spans? ((enclose quote text).toList ++ rest) =
      (spans? rest).map (.quoted quote text.toList :: ·) := by
  have hlist : (enclose quote text).toList ++ rest =
      quote :: (doubled quote text.toList ++ quote :: rest) := by simp [enclose]
  rw [hlist, spans?, spansFrom, if_pos hq, spansFrom_doubled _ _ h, List.nil_append]

theorem spans?_enclose {quote : Char} (hq : isQuote quote) (text : String) :
    spans? (enclose quote text).toList = some [.quoted quote text.toList] := by
  have hend : ([] : List Char).head? ≠ some quote := by simp
  have h := spans?_enclose_append hq text hend
  rwa [List.append_nil] at h

theorem spans?_bare_append {text : List Char} (hne : text ≠ []) (ht : ∀ c ∈ text, ¬isQuote c)
    {rest inner : List Char} {quote : Char} {spans : List Span}
    (h : spans? rest = some (.quoted quote inner :: spans)) :
    spans? (text ++ rest) = some (.bare text :: .quoted quote inner :: spans) := by
  induction text with
  | nil => exact absurd rfl hne
  | cons c text ih =>
    obtain ⟨hc, htext⟩ := List.forall_mem_cons.1 ht
    have hstep : spans? (c :: (text ++ rest)) = (spans? (text ++ rest)).map (bareBefore c) :=
      if_neg hc
    rw [List.cons_append, hstep]
    cases text with
    | nil =>
      rw [List.nil_append, h]
      rfl
    | cons d text =>
      rw [ih (List.cons_ne_nil _ _) htext]
      rfl

/-- What a step gives. -/
inductive Arrow
  | json
  | text

def Arrow.symbol : Arrow → String
  | json => "->"
  | text => "->>"

/-- A step to what stands under a key. -/
structure Hop where
  arrow : Arrow
  key : String

namespace Hop

def text (hop : Hop) : List Char := hop.arrow.symbol.toList ++ (literal hop.key).toList

def spans (hop : Hop) : List Span := [.bare hop.arrow.symbol.toList, .quoted '\'' hop.key.toList]

end Hop

def jsonHops (keys : List String) : List Hop := keys.map (⟨.json, ·⟩)

def textHops : List String → List Hop
  | [] => []
  | [key] => [⟨.text, key⟩]
  | key :: next :: rest => ⟨.json, key⟩ :: textHops (next :: rest)

def pathSpans (column : String) (hops : List Hop) : List Span :=
  .quoted '"' column.toList :: hops.flatMap Hop.spans

theorem textHops_concat (keys : List String) (last : String) :
    textHops (keys ++ [last]) = jsonHops keys ++ [⟨.text, last⟩] := by
  induction keys with
  | nil => rfl
  | cons key rest ih =>
    obtain ⟨next, more, hrest⟩ := List.exists_cons_of_ne_nil
      (List.append_ne_nil_of_right_ne_nil rest (List.cons_ne_nil last []))
    rw [List.cons_append, hrest, textHops, ← hrest, ih]
    rfl

theorem head?_hops (hops : List Hop) {quote : Char} (hq : isQuote quote) :
    (hops.flatMap Hop.text).head? ≠ some quote := by
  cases hops with
  | nil => simp
  | cons hop rest =>
    have hdash : ((hop :: rest).flatMap Hop.text).head? = some '-' := by
      rw [List.flatMap_cons, Hop.text]
      cases hop.arrow <;> rfl
    rw [hdash]
    rintro ⟨⟩
    exact absurd hq (by decide)

theorem spans?_hops (hops : List Hop) :
    spans? (hops.flatMap Hop.text) = some (hops.flatMap Hop.spans) := by
  induction hops with
  | nil => rfl
  | cons hop rest ih =>
    have hliteral : spans? ((literal hop.key).toList ++ rest.flatMap Hop.text) =
        some (.quoted '\'' hop.key.toList :: rest.flatMap Hop.spans) := by
      rw [literal, spans?_enclose_append (.inr rfl) hop.key (head?_hops rest (.inr rfl)), ih]
      rfl
    have hbare : ∀ arrow : Arrow, arrow.symbol.toList ≠ [] ∧
        ∀ c ∈ arrow.symbol.toList, ¬isQuote c := by
      rintro (_ | _) <;> simp [Arrow.symbol, isQuote]
    rw [List.flatMap_cons, Hop.text, List.append_assoc]
    exact spans?_bare_append (hbare hop.arrow).1 (hbare hop.arrow).2 hliteral

theorem spans?_path (column : String) (hops : List Hop) :
    spans? ((identifier column).toList ++ hops.flatMap Hop.text) = some (pathSpans column hops) := by
  rw [identifier, spans?_enclose_append (.inl rfl) column (head?_hops hops (.inl rfl)), spans?_hops]
  rfl

example : spans? "\"we\"\"ird\"->>'it''s'".toList = some (pathSpans "we\"ird" [⟨.text, "it's"⟩]) := by
  decide

theorem bareMarkers_pathSpans (column : String) (hops : List Hop) :
    bareMarkers (pathSpans column hops) = 0 := by
  have harrow : ∀ arrow : Arrow, arrow.symbol.toList.count '?' = 0 := by
    rintro (_ | _) <;> decide
  have hhops : bareMarkers (hops.flatMap Hop.spans) = 0 := by
    induction hops with
    | nil => rfl
    | cons hop rest ih =>
      change hop.arrow.symbol.toList.count '?' + bareMarkers (rest.flatMap Hop.spans) = 0
      rw [harrow, ih]
  exact hhops

def quotedTexts (spans : List Span) : List String :=
  spans.filterMap fun
    | .quoted _ text => some (String.ofList text)
    | .bare _ => none

theorem quotedTexts_pathSpans (column : String) (hops : List Hop) :
    quotedTexts (pathSpans column hops) = column :: hops.map Hop.key := by
  have hhops : quotedTexts (hops.flatMap Hop.spans) = hops.map Hop.key := by
    induction hops with
    | nil => rfl
    | cons hop rest ih =>
      change String.ofList hop.key.toList :: quotedTexts (rest.flatMap Hop.spans) = _
      rw [ih, String.ofList_toList]
      rfl
  change String.ofList column.toList :: quotedTexts (hops.flatMap Hop.spans) = _
  rw [hhops, String.ofList_toList]

theorem map_key_jsonHops (keys : List String) : (jsonHops keys).map Hop.key = keys := by
  rw [jsonHops, List.map_map]
  exact List.map_id keys

theorem map_key_textHops (keys : List String) : (textHops keys).map Hop.key = keys := by
  rcases List.eq_nil_or_concat' keys with rfl | ⟨init, last, rfl⟩
  · rfl
  · rw [textHops_concat, List.map_append, map_key_jsonHops]
    rfl

section

variable {field column : String} {keys : List String}

theorem steps_toList (keys : List String) :
    (steps keys).toList = (jsonHops keys).flatMap Hop.text := by
  rw [steps, String.toList_join, List.flatMap_map, jsonHops, List.flatMap_map]
  simp [Hop.text, Arrow.symbol]

theorem spans?_jsonPath (h : segments field = column :: keys) :
    spans? (jsonPath field).toList = some (pathSpans column (jsonHops keys)) := by
  rw [jsonPath, h, String.toList_append, steps_toList, spans?_path]

theorem jsonTextPath_concat {last : String} (h : segments field = column :: (keys ++ [last])) :
    jsonTextPath field = identifier column ++ steps keys ++ "->>" ++ literal last := by
  have hkeys : (keys ++ [last]).dropLast = keys ∧ (keys ++ [last]).getLast?.getD "" = last := by
    simp
  obtain ⟨next, more, hmore⟩ := List.exists_cons_of_ne_nil
    (List.append_ne_nil_of_right_ne_nil keys (List.cons_ne_nil last []))
  rw [hmore] at h hkeys
  simp only [jsonTextPath, h, hkeys]

theorem spans?_jsonTextPath (h : segments field = column :: keys) :
    spans? (jsonTextPath field).toList = some (pathSpans column (textHops keys)) := by
  have hlist : (jsonTextPath field).toList =
      (identifier column).toList ++ (textHops keys).flatMap Hop.text := by
    rcases List.eq_nil_or_concat' keys with rfl | ⟨init, last, rfl⟩
    · simp only [jsonTextPath, h]
      exact (List.append_nil _).symm
    · rw [jsonTextPath_concat h, textHops_concat, List.flatMap_append, ← steps_toList]
      simp [Hop.text, Arrow.symbol]
  rw [hlist, spans?_path]

end

def pathForms : List (String → String) := [jsonPath, jsonTextPath]

theorem quotedTexts_of_mem_pathForms {path : String → String} (h : path ∈ pathForms)
    (field : String) : (spans? (path field).toList).map quotedTexts = some (segments field) := by
  obtain ⟨column, keys, hsegments⟩ := List.exists_cons_of_ne_nil (segments_ne_nil field)
  simp only [pathForms, List.mem_cons, List.not_mem_nil, or_false] at h
  rcases h with rfl | rfl
  · rw [spans?_jsonPath hsegments, Option.map_some, quotedTexts_pathSpans, map_key_jsonHops,
      hsegments]
  · rw [spans?_jsonTextPath hsegments, Option.map_some, quotedTexts_pathSpans, map_key_textHops,
      hsegments]

theorem eq_of_mem_pathForms {path otherPath : String → String} (hp : path ∈ pathForms)
    (ho : otherPath ∈ pathForms) {field other : String} (h : path field = otherPath other) :
    field = other := by
  have htexts := quotedTexts_of_mem_pathForms hp field
  rw [h, quotedTexts_of_mem_pathForms ho other, Option.some.injEq] at htexts
  rw [← intercalate_segments field, ← intercalate_segments other, htexts]

/-- Behind a text that leaves no quote open, whatever names, texts and dotted fields
hold adds no marker and leaves no quote open. A quoted name or text is read back as it
is, and a field as a quoted column with a step to each of its keys, the last one giving
text where text is asked for; so different fields are written differently. -/
theorem quoting_confines {before : List Char} (hb : before.foldl quoteAfter none = none)
    (text field : String) :
    (∀ token ∈ [identifier text, literal text, jsonPath field, jsonTextPath field],
      Passes before token.toList) ∧
    spans? (identifier text).toList = some [.quoted '"' text.toList] ∧
    spans? (literal text).toList = some [.quoted '\'' text.toList] ∧
    (∃ column keys, ".".intercalate (column :: keys) = field ∧
      (∀ segment ∈ column :: keys, '.' ∉ segment.toList) ∧
      spans? (jsonPath field).toList = some (pathSpans column (jsonHops keys)) ∧
      spans? (jsonTextPath field).toList = some (pathSpans column (textHops keys))) ∧
    ∀ other, field ≠ other → ∀ path ∈ pathForms, ∀ otherPath ∈ pathForms,
      path field ≠ otherPath other := by
  obtain ⟨column, keys, hsegments⟩ := List.exists_cons_of_ne_nil (segments_ne_nil field)
  have hidentifier := spans?_enclose (.inl rfl) text
  have hliteral := spans?_enclose (.inr rfl) text
  have hjson := spans?_jsonPath hsegments
  have htext := spans?_jsonTextPath hsegments
  refine ⟨?_, hidentifier, hliteral, ⟨column, keys, ?_, ?_, hjson, htext⟩, ?_⟩
  · simp only [List.forall_mem_cons]
    exact ⟨.of_spans hidentifier rfl hb, .of_spans hliteral rfl hb,
      .of_spans hjson (bareMarkers_pathSpans _ _) hb, .of_spans htext (bareMarkers_pathSpans _ _) hb,
      List.forall_mem_nil _⟩
  · rw [← hsegments, intercalate_segments]
  · rw [← hsegments]
    exact not_mem_segments field
  · intro other hne path hp otherPath ho h
    exact hne (eq_of_mem_pathForms hp ho h)

/-- Quotes, markers and an empty key in a field, behind a literal with a quote. -/
theorem odd_field_confined :
    "x = 'it''s?' AND ".toList.foldl quoteAfter none = none ∧
    Passes "x = 'it''s?' AND ".toList (jsonTextPath "a\"?..b'").toList ∧
    spans? (identifier "a\"?").toList = some [.quoted '"' "a\"?".toList] ∧
    jsonTextPath "a\"?..b'" ≠ jsonPath "a\"?.b'" := by
  have hb : "x = 'it''s?' AND ".toList.foldl quoteAfter none = none := by decide
  obtain ⟨htokens, hname, -, -, hpaths⟩ := quoting_confines hb "a\"?" "a\"?..b'"
  refine ⟨hb, htokens _ (by simp), hname, ?_⟩
  exact hpaths "a\"?.b'" (by decide) jsonTextPath (by simp [pathForms]) jsonPath (by simp [pathForms])

end DocSql.Sql
