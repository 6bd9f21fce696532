import DocSql.Proofs.Outcome
import DocSql.Proofs.Pattern.LiteralStarts

/-!
LIKE patterns of anchored literals. LIKE gives a meaning to two characters and
to the backslash. A literal escapes all three of them, so the escapes that are
made for regular expressions serve here too. Main statement:
`Pattern.likeStarts_prefixes`.
-/
namespace DocSql.Pattern

/-- Whether a text is LIKE a pattern: `%` stands for any text, `_` for any one
character, a backslash makes what follows it mean itself, and all else means
itself anyway. The engine refuses a backslash with nothing behind it. -/
def isLike : List Char → List Char → Bool
  | [], text => text.isEmpty
  | '%' :: rest, text => text.tails.any (isLike rest)
  | '_' :: rest, _ :: text => isLike rest text
  | '\\' :: c :: rest, d :: text => c == d && isLike rest text
  | ['\\'], _ => false
  | c :: rest, d :: text => c == d && isLike rest text
  | _ :: _, [] => false

variable {c d : Char} {rest text after : List Char}

theorem isLike_percent (text : List Char) : isLike ['%'] text = true := by
  rw [isLike, List.any_eq_true]
  exact ⟨[], (List.mem_tails [] text).2 List.nil_suffix, rfl⟩

theorem ne_of_isPlain (h : isPlain c) (hd : isPlain d = false) : c ≠ d := by
  rintro rfl
  rw [h] at hd
  cases hd

theorem head_and_isLike_iff : (c == d && isLike rest after) = true ↔
    ∃ tail, d :: after = c :: tail ∧ isLike rest tail = true := by
  rw [Bool.and_eq_true, beq_iff_eq]
  constructor
  · rintro ⟨rfl, h⟩
    exact ⟨after, rfl, h⟩
  · rintro ⟨tail, hsame, h⟩
    obtain ⟨rfl, rfl⟩ := List.cons.inj hsame
    exact ⟨rfl, h⟩

theorem isLike_escape_iff : isLike ('\\' :: c :: rest) text = true ↔
    ∃ tail, text = c :: tail ∧ isLike rest tail = true := by
  cases text with
  | nil => exact ⟨nofun, nofun⟩
  | cons d after => exact head_and_isLike_iff

theorem isLike_plain_iff (h : isPlain c) : isLike (c :: rest) text = true ↔
    ∃ tail, text = c :: tail ∧ isLike rest tail = true := by
  have hpercent : c ≠ '%' := ne_of_isPlain h (by decide +kernel)
  have hany : c ≠ '_' := ne_of_isPlain h (by decide +kernel)
  have hescape : c ≠ '\\' := ne_of_isPlain h (by decide +kernel)
  cases text with
  | nil =>
    have hnone : isLike (c :: rest) [] = false := by
      rw [isLike]
      · exact hpercent
      · exact fun hc _ => hescape hc
    rw [hnone]
    exact ⟨nofun, nofun⟩
  | cons d after =>
    have hone : isLike (c :: rest) (d :: after) = (c == d && isLike rest after) := by
      rw [isLike]
      · exact hpercent
      · exact hany
      · exact fun _ _ hc _ => hescape hc
      · exact fun hc _ => hescape hc
    rw [hone]
    exact head_and_isLike_iff

theorem isLike_escaped_iff : isLike (escaped c ++ rest) text = true ↔
    ∃ tail, text = c :: tail ∧ isLike rest tail = true := by
  cases hc : isPlain c with
  | true =>
    rw [escaped_of_isPlain hc]
    exact isLike_plain_iff hc
  | false =>
    rw [escaped_of_not_isPlain hc]
    exact isLike_escape_iff

theorem isLike_ofLiteral_iff (literal : List Char) :
    isLike (ofLiteral literal ++ rest) text = true ↔
      ∃ tail, text = literal ++ tail ∧ isLike rest tail = true := by
  induction literal generalizing text with
  | nil => simp [ofLiteral]
  | cons c literal ih =>
    rw [ofLiteral_cons, List.append_assoc, isLike_escaped_iff]
    constructor
    · rintro ⟨after, rfl, hlike⟩
      obtain ⟨tail, rfl, htail⟩ := ih.1 hlike
      exact ⟨tail, rfl, htail⟩
    · rintro ⟨tail, rfl, htail⟩
      exact ⟨literal ++ tail, rfl, ih.2 ⟨tail, rfl, htail⟩⟩

theorem isLike_start_iff (literal text : List Char) :
    isLike (ofLiteral literal ++ ['%']) text = true ↔ literal <+: text := by
  rw [isLike_ofLiteral_iff]
  constructor
  · rintro ⟨tail, rfl, -⟩
    exact List.prefix_append literal tail
  · rintro ⟨tail, rfl⟩
    exact ⟨tail, rfl, isLike_percent tail⟩

theorem isLiteralStartJson_eq_false_iff {value : Json} : isLiteralStartJson value = false ↔
    ∀ pattern, ofJson? value = some pattern → isLiteralStart pattern = false := by
  rw [isLiteralStartJson]
  simp only [Option.any_eq_false]

theorem isLiteralStartJson_quotedStart (h : ¬ endMark <:+: text) :
    isLiteralStartJson (toJson (quotedStart text)) = true := by
  have hrun := FirstRun.ofQuotedStart h
  rw [isLiteralStartJson, ofJson?_toJson]
  exact isLiteralStart_eq_true_iff.2 ⟨hrun.anchored, _, hrun.after?_anchorMark, [], hrun.after?_endMark⟩

theorem literalize_quotedStart_tail (h : ¬ endMark <:+: text) :
    literalize (quotedStart text).tail = ofLiteral text := by
  have hrun := literalizeFrom_quoted h (show endMark.head? ≠ some 'E' by decide)
  rw [show literalizeFrom true endMark = [] from rfl, List.append_nil] at hrun
  exact hrun

theorem allOrNoneLiteralStart_iff {values : List Json} : allOrNoneLiteralStart values = true ↔
    ∀ a ∈ values, ∀ b ∈ values, isLiteralStartJson a = isLiteralStartJson b := by
  cases values with
  | nil => exact ⟨fun _ => nofun, fun _ => rfl⟩
  | cons first others =>
    simp only [allOrNoneLiteralStart, List.all_eq_true, beq_iff_eq]
    constructor
    · intro h
      have hfirst : ∀ a ∈ first :: others, isLiteralStartJson a = isLiteralStartJson first :=
        List.forall_mem_cons.2 ⟨rfl, h⟩
      exact fun a ha b hb => (hfirst a ha).trans (hfirst b hb).symm
    · exact fun h a ha => h a (List.mem_cons_of_mem first ha) first List.mem_cons_self

/-- Anchored literals become LIKE patterns, one for each and in order. Each fits
just the texts that start with its literal, whatever characters are in them. A
list that has anchored literals and other values is refused. -/
theorem likeStarts_prefixes (texts : List (List Char)) (h : ∀ text ∈ texts, ¬ endMark <:+: text) :
    likeStarts (texts.map fun text => toJson (quotedStart text)) =
      .ok (texts.map fun text => .str (.ofList (ofLiteral text ++ ['%']))) ∧
    (∀ text ∈ texts, ∀ other, isLike (ofLiteral text ++ ['%']) other = true ↔ text <+: other) ∧
    ∀ values, (∃ text ∈ texts, toJson (quotedStart text) ∈ values) →
      (∃ value ∈ values, ∀ pattern, ofJson? value = some pattern → isLiteralStart pattern = false) →
      likeStarts values = .error (.invalidQuery
        ("All $all values must be of regex type or none: " ++ (Json.arr values).text)) := by
  refine ⟨?_, fun text _ => isLike_start_iff text, ?_⟩
  · have hliterals : ∀ value ∈ texts.map fun text => toJson (quotedStart text),
        isLiteralStartJson value = true := by
      intro value hvalue
      obtain ⟨text, htext, rfl⟩ := List.mem_map.1 hvalue
      exact isLiteralStartJson_quotedStart (h text htext)
    have hsame := allOrNoneLiteralStart_iff.2 fun a ha b hb =>
      (hliterals a ha).trans (hliterals b hb).symm
    rw [likeStarts, if_pos hsame, mapM_eq_ok, List.forall₂_map_left_iff, List.forall₂_map_right_iff,
      List.forall₂_same]
    intro text htext
    rw [likeStart_toJson rfl, literalize_quotedStart_tail (h text htext)]
  · rintro values ⟨text, htext, hliteral⟩ ⟨value, hvalue, hother⟩
    have hmixed : ¬ allOrNoneLiteralStart values = true := by
      intro hsame
      have hkinds := allOrNoneLiteralStart_iff.1 hsame _ hliteral _ hvalue
      rw [isLiteralStartJson_quotedStart (h text htext),
        isLiteralStartJson_eq_false_iff.2 hother] at hkinds
      cases hkinds
    rw [likeStarts, if_neg hmixed]

/-- A percent sign and a last backslash in the texts mean themselves. -/
theorem percent_prefixes :
    let texts := ["5%".toList, "_\\".toList]
    (∀ text ∈ texts, ¬ endMark <:+: text) ∧
    likeStarts (texts.map fun text => toJson (quotedStart text)) =
      .ok [.str "5\\%%", .str "\\_\\\\%"] ∧
    isLike "5\\%%".toList "5% off".toList = true ∧ ¬ isLike "5\\%%".toList "50 off".toList = true ∧
    likeStarts [toJson (quotedStart "5%".toList), .str "b"] = .error (.invalidQuery
      ("All $all values must be of regex type or none: " ++
        (Json.arr [toJson (quotedStart "5%".toList), .str "b"]).text)) := by
  intro texts
  have hopen : ∀ text ∈ texts, ¬ endMark <:+: text := by decide
  obtain ⟨hlike, hstarts, hmixed⟩ := likeStarts_prefixes texts hopen
  have hpercent : ofLiteral "5%".toList ++ ['%'] = "5\\%%".toList := by decide +kernel
  have hbackslash : ofLiteral "_\\".toList ++ ['%'] = "\\_\\\\%".toList := by decide +kernel
  have hstart := hstarts "5%".toList List.mem_cons_self
  rw [hpercent] at hstart
  refine ⟨hopen, ?_, (hstart _).2 (by decide), fun h => ?_, hmixed _ ?_ ?_⟩
  · rw [hlike]
    simp only [texts, List.map_cons, List.map_nil, hpercent, hbackslash, String.ofList_toList]
  · exact absurd ((hstart _).1 h) (by decide)
  · exact ⟨_, List.mem_cons_self, List.mem_cons_self⟩
  · exact ⟨.str "b", by simp, nofun⟩

end DocSql.Pattern
