import DocSql.Proofs.Outcome
import DocSql.Proofs.Storage.RoundTrip
import DocSql.Storage.Document

/-!
Result rows as documents. The columns of a row are decoded one by one and nulls
are dropped, of whatever kind; then the relations of the schema are laid over
what is left. Main statement: `Row.toDocument_describes`.
-/
namespace DocSql

open Entries (find? keys)

variable {schema : Schema} {row : Row} {document columns : Entries Json} {name : String}

theorem Json.isNull_iff {value : Json} : value.isNull ↔ value = .null := by
  cases value with
  | null => exact iff_of_true rfl rfl
  | _ => exact iff_of_false nofun nofun

theorem Schema.decodeColumn_null (schema : Schema) (column : String) :
    schema.decodeColumn column .null = .ok .null := by
  unfold decodeColumn
  split
  · exact Datum.decode_null _
  · rfl

theorem Datum.relationJson_eq (target : String) :
    relationJson target = .tagged "Relation" [("className", .str target)] :=
  Json.object_of_sorted ["className"] rfl (by decide)

namespace Row

/-- The value of a column: what the declared type makes of it, or the column as
it is where the schema declares none. -/
inductive Yields (schema : Schema) (name : String) (raw : Datum) : Json → Prop
  | declared {type : FieldType} {value : Json} (hfield : schema.field? name = some type)
      (hdecode : raw.decode type = .ok value) : Yields schema name raw value
  | undeclared (hfield : schema.field? name = none) : Yields schema name raw raw.toDocument

theorem decodeColumn_eq_ok {raw : Datum} {value : Json} :
    schema.decodeColumn name raw = .ok value ↔ Yields schema name raw value := by
  unfold Schema.decodeColumn
  constructor
  · intro h
    split at h
    next type hfield => exact .declared hfield h
    next hfield =>
      cases h
      exact .undeclared hfield
  · rintro (⟨hfield, hdecode⟩ | hfield)
    · rw [hfield]
      exact hdecode
    · rw [hfield]

/-- The document of a row: the columns whose values are not null, and the
relations of the schema, which hide the columns of their names. -/
structure Describes (schema : Schema) (row : Row) (document : Entries Json) : Prop where
  sorted : (keys document).Pairwise (· < ·)
  not_null : ∀ entry ∈ document, entry.2 ≠ .null
  names : ∀ name, name ∈ keys document ↔
    (∃ raw value, (name, raw) ∈ row ∧ Yields schema name raw value ∧ value ≠ .null) ∨
      ∃ target, schema.field? name = some (.relation target)
  relation : ∀ name target, schema.field? name = some (.relation target) →
    find? document name = some (.tagged "Relation" [("className", .str target)])
  column : ∀ name value, find? document name = some value →
    (∀ target, schema.field? name ≠ some (.relation target)) →
    ∃ raw, (name, raw) ∈ row ∧ Yields schema name raw value

theorem present_cons (column : String) (raw : Datum) (rest : Row) :
    present schema ((column, raw) :: rest) = (do
      let value ← schema.decodeColumn column raw
      let others ← present schema rest
      return if value.isNull then others else (column, value) :: others) := by
  cases hraw : raw.isNull with
  | true =>
    obtain rfl : raw = .null := by
      cases raw with
      | null => rfl
      | _ => cases hraw
    change present schema rest = _
    rw [Schema.decodeColumn_null]
    cases present schema rest with
    | _ => rfl
  | false =>
    unfold present
    rw [List.filter_cons_of_pos (by simp [hraw])]
    simp only [List.mapM_cons, bind_assoc, pure_bind]
    cases schema.decodeColumn column raw with
    | error e => rfl
    | ok value =>
      generalize (List.mapM _ _ : Except Error (List (String × Json))) = decoded
      cases decoded with
      | error e => rfl
      | ok others =>
        refine congrArg Except.ok ?_
        rw [List.filter_cons]
        cases value.isNull with
        | _ => rfl

theorem present_isOk_iff : (∃ columns, present schema row = .ok columns) ↔
    ∀ entry ∈ row, ∃ value, schema.decodeColumn entry.1 entry.2 = .ok value := by
  induction row with
  | nil => exact iff_of_true ⟨[], rfl⟩ nofun
  | cons entry rest ih =>
    obtain ⟨column, raw⟩ := entry
    rw [List.forall_mem_cons, ← ih]
    simp only [present_cons, bind_eq_ok]
    constructor
    · rintro ⟨columns, value, hvalue, others, hothers, -⟩
      exact ⟨⟨value, hvalue⟩, others, hothers⟩
    · rintro ⟨⟨value, hvalue⟩, others, hothers⟩
      exact ⟨_, value, hvalue, others, hothers, rfl⟩

theorem mem_present (h : present schema row = .ok columns) {value : Json} :
    (name, value) ∈ columns ↔
      ∃ raw, (name, raw) ∈ row ∧ schema.decodeColumn name raw = .ok value ∧ value ≠ .null := by
  induction row generalizing columns with
  | nil =>
    cases h
    exact iff_of_false nofun (by rintro ⟨raw, hraw, -⟩; cases hraw)
  | cons entry rest ih =>
    obtain ⟨column, raw⟩ := entry
    rw [present_cons] at h
    obtain ⟨first, hfirst, h⟩ := bind_eq_ok.1 h
    obtain ⟨others, hothers, hcolumns⟩ := bind_eq_ok.1 h
    have hhead : (name, value) ∈ columns ↔
        (name = column ∧ value = first) ∧ value ≠ .null ∨ (name, value) ∈ others := by
      cases hcolumns
      cases hnull : first.isNull with
      | true =>
        rw [Json.isNull_iff] at hnull
        rw [if_pos rfl, hnull]
        exact ⟨.inr, fun h => h.resolve_left fun h => h.2 h.1.2⟩
      | false =>
        have hne : first ≠ .null := fun h => by simp [h, Json.isNull] at hnull
        rw [if_neg (by simp), List.mem_cons, Prod.mk.injEq]
        exact or_congr_left ⟨fun h => ⟨h, h.2 ▸ hne⟩, And.left⟩
    rw [hhead, ih hothers]
    constructor
    · rintro (⟨⟨rfl, rfl⟩, hne⟩ | ⟨other, hother, hmade⟩)
      · exact ⟨raw, List.mem_cons_self, hfirst, hne⟩
      · exact ⟨other, List.mem_cons_of_mem _ hother, hmade⟩
    · rintro ⟨other, hother, hmade, hne⟩
      rcases List.mem_cons.1 hother with hsame | hlater
      · cases hsame
        rw [hfirst] at hmade
        exact .inl ⟨⟨rfl, (Except.ok.inj hmade).symm⟩, hne⟩
      · exact .inr ⟨other, hlater, hmade, hne⟩

theorem keys_present_sublist (h : present schema row = .ok columns) :
    (keys columns).Sublist (keys row) := by
  induction row generalizing columns with
  | nil =>
    cases h
    exact .slnil
  | cons entry rest ih =>
    rw [present_cons] at h
    obtain ⟨first, -, h⟩ := bind_eq_ok.1 h
    obtain ⟨others, hothers, hcolumns⟩ := bind_eq_ok.1 h
    have hrest := ih hothers
    cases hcolumns
    split
    · exact hrest.cons _
    · exact hrest.cons_cons _

theorem relationFields_foldl (document : Entries Json) :
    schema.relationFields.foldl addRelation document = schema.fields.foldl addRelation document := by
  unfold Schema.relationFields
  rw [List.foldl_filter]
  congr 1
  funext document field
  obtain ⟨name, type⟩ := field
  cases type with
  | _ => rfl

theorem addRelation_sorted (field : String × FieldType) (h : (keys document).Pairwise (· < ·)) :
    (keys (addRelation document field)).Pairwise (· < ·) := by
  unfold addRelation
  split
  · exact Entries.insert_sorted _ _ h
  · exact h

theorem find?_foldl_addRelation {fields : Entries FieldType} (hs : (keys fields).Pairwise (· < ·))
    (document : Entries Json) (name : String) :
    find? (fields.foldl addRelation document) name =
      match find? fields name with
      | some (.relation target) => some (Datum.relationJson target)
      | _ => find? document name := by
  induction fields generalizing document with
  | nil => rfl
  | cons field rest ih =>
    obtain ⟨key, type⟩ := field
    obtain ⟨hbefore, hrest⟩ := List.pairwise_cons.1 hs
    rw [List.foldl_cons, ih hrest, Entries.find?_cons]
    by_cases hkey : key = name
    · subst hkey
      have habsent : find? rest key = none := by
        cases hfound : find? rest key with
        | none => rfl
        | some other =>
          exact absurd (hbefore key (List.mem_map_of_mem (Entries.mem_of_find? hfound)))
            (String.lt_irrefl key)
      rw [habsent, if_pos rfl]
      cases type with
      | relation target => exact Entries.find?_insert_self _ _ _
      | _ => rfl
    · rw [if_neg hkey]
      split
      · rfl
      · cases type with
        | relation target => exact Entries.find?_insert_other _ _ hkey
        | _ => rfl

theorem foldl_addRelation_sorted (fields : Entries FieldType)
    (h : (keys document).Pairwise (· < ·)) :
    (keys (fields.foldl addRelation document)).Pairwise (· < ·) := by
  induction fields generalizing document with
  | nil => exact h
  | cons field rest ih => exact ih (addRelation_sorted field h)

theorem toDocument_eq_ok : toDocument schema row = .ok document ↔
    ∃ columns, present schema row = .ok columns ∧
      schema.fields.foldl addRelation columns = document := by
  unfold toDocument
  rw [bind_eq_ok]
  refine exists_congr fun columns => and_congr_right fun _ => ?_
  rw [relationFields_foldl]
  exact ⟨Except.ok.inj, congrArg Except.ok⟩

theorem toDocument_sorted (hr : (keys row).Pairwise (· < ·))
    (h : toDocument schema row = .ok document) : (keys document).Pairwise (· < ·) := by
  obtain ⟨columns, hcolumns, rfl⟩ := toDocument_eq_ok.1 h
  exact foldl_addRelation_sorted _ (hr.sublist (keys_present_sublist hcolumns))

def Shows (schema : Schema) (row : Row) (name : String) (value : Json) : Prop :=
  (∃ target, schema.field? name = some (.relation target) ∧
      value = .tagged "Relation" [("className", .str target)]) ∨
    (∀ target, schema.field? name ≠ some (.relation target)) ∧
      ∃ raw, (name, raw) ∈ row ∧ Yields schema name raw value ∧ value ≠ .null

theorem find?_toDocument (hf : (keys schema.fields).Pairwise (· < ·))
    (hr : (keys row).Pairwise (· < ·)) (h : toDocument schema row = .ok document) (name : String)
    (value : Json) : find? document name = some value ↔ Shows schema row name value := by
  obtain ⟨columns, hcolumns, rfl⟩ := toDocument_eq_ok.1 h
  have hsorted := hr.sublist (keys_present_sublist hcolumns)
  have hcolumn : find? columns name = some value ↔
      ∃ raw, (name, raw) ∈ row ∧ Yields schema name raw value ∧ value ≠ .null := by
    simp only [← decodeColumn_eq_ok, ← mem_present hcolumns]
    exact ⟨Entries.mem_of_find?, Entries.find?_of_mem hsorted⟩
  rw [find?_foldl_addRelation hf]
  change (match schema.field? name with
    | some (.relation target) => some (Datum.relationJson target)
    | _ => find? columns name) = some value ↔ _
  split
  next target hfield =>
    rw [Datum.relationJson_eq, Option.some_inj]
    constructor
    · rintro rfl
      exact .inl ⟨target, hfield, rfl⟩
    · rintro (⟨other, hother, rfl⟩ | ⟨hnone, -⟩)
      · rw [hfield] at hother
        cases hother
        rfl
      · exact absurd hfield (hnone target)
  next hnone =>
    rw [hcolumn]
    exact ⟨fun h => .inr ⟨hnone, h⟩, fun h => (h.resolve_left fun ⟨target, ht, _⟩ => hnone target ht).2⟩

theorem not_null_of_shows {value : Json} (h : Shows schema row name value) : value ≠ .null := by
  rcases h with ⟨target, -, rfl⟩ | ⟨-, raw, -, -, hne⟩
  · exact nofun
  · exact hne

theorem describes_of_shows (hs : (keys document).Pairwise (· < ·))
    (h : ∀ name value, find? document name = some value ↔ Shows schema row name value) :
    Describes schema row document where
  sorted := hs
  not_null entry hentry := not_null_of_shows ((h entry.1 entry.2).1 (Entries.find?_of_mem hs hentry))
  names name := by
    rw [Entries.mem_keys_iff]
    simp only [h]
    constructor
    · rintro ⟨value, ⟨target, ht, -⟩ | ⟨-, raw, hmade⟩⟩
      · exact .inr ⟨target, ht⟩
      · exact .inl ⟨raw, value, hmade⟩
    · intro hnamed
      by_cases hrelation : ∃ target, schema.field? name = some (.relation target)
      · obtain ⟨target, ht⟩ := hrelation
        exact ⟨_, .inl ⟨target, ht, rfl⟩⟩
      · obtain ⟨raw, value, hmade⟩ := hnamed.resolve_right hrelation
        exact ⟨value, .inr ⟨not_exists.1 hrelation, raw, hmade⟩⟩
  relation name target ht := (h name _).2 (.inl ⟨target, ht, rfl⟩)
  column name value hfound hnone := by
    rcases (h name value).1 hfound with ⟨target, ht, -⟩ | ⟨-, raw, hmem, hmade, -⟩
    · exact absurd ht (hnone target)
    · exact ⟨raw, hmem, hmade⟩

theorem Describes.find?_iff (h : Describes schema row document) (hr : (keys row).Pairwise (· < ·))
    (name : String) (value : Json) :
    Entries.find? document name = some value ↔ Shows schema row name value := by
  have hmem : ∀ {other}, Entries.find? document name = some other → other ≠ .null :=
    fun hfound => h.not_null _ (Entries.mem_of_find? hfound)
  constructor
  · intro hfound
    by_cases hrelation : ∃ target, schema.field? name = some (.relation target)
    · obtain ⟨target, ht⟩ := hrelation
      rw [h.relation name target ht] at hfound
      exact .inl ⟨target, ht, (Option.some.inj hfound).symm⟩
    · obtain ⟨raw, hraw, hmade⟩ := h.column name value hfound (not_exists.1 hrelation)
      exact .inr ⟨not_exists.1 hrelation, raw, hraw, hmade, hmem hfound⟩
  · rintro (⟨target, ht, rfl⟩ | ⟨hnone, raw, hraw, hmade, hne⟩)
    · exact h.relation name target ht
    · have hnamed := (h.names name).2 (.inl ⟨raw, value, hraw, hmade, hne⟩)
      obtain ⟨other, hother⟩ := Entries.mem_keys_iff.1 hnamed
      obtain ⟨raw', hraw', hmade'⟩ := h.column name other hother hnone
      -- The row has one column of the name, so both values were decoded from it.
      have hsame : some raw' = some raw := by
        rw [← Entries.find?_of_mem hr hraw', Entries.find?_of_mem hr hraw]
      cases hsame
      rw [← decodeColumn_eq_ok] at hmade hmade'
      rw [hmade] at hmade'
      cases hmade'
      exact hother

/-- The document of a row is there where every column can be decoded, and it is
the one that the row and the schema describe. A list of rows gives as many
documents, in order, or fails as the first row does that fails. -/
theorem toDocument_describes (hf : (keys schema.fields).Pairwise (· < ·))
    (hr : (keys row).Pairwise (· < ·)) (rows : List Row) :
    (∀ document, toDocument schema row = .ok document ↔
      (∀ entry ∈ row, ∃ value, Yields schema entry.1 entry.2 value) ∧
        Describes schema row document) ∧
    (∀ documents, toDocuments schema rows = .ok documents ↔
      List.Forall₂ (fun row shown => ∃ document, toDocument schema row = .ok document ∧
        .obj document = shown) rows documents) ∧
    (∀ e, toDocuments schema rows = .error e ↔ ∃ before failed after,
      rows = before ++ failed :: after ∧
        (∀ other ∈ before, ∃ document, toDocument schema other = .ok document) ∧
        toDocument schema failed = .error e) := by
  simp only [← decodeColumn_eq_ok]
  refine ⟨fun document => ⟨fun h => ⟨?_, ?_⟩, ?_⟩, fun documents => ?_, fun e => ?_⟩
  · obtain ⟨columns, hcolumns, -⟩ := toDocument_eq_ok.1 h
    exact present_isOk_iff.1 ⟨columns, hcolumns⟩
  · exact describes_of_shows (toDocument_sorted hr h) (find?_toDocument hf hr h)
  · rintro ⟨hdecoded, hdescribes⟩
    obtain ⟨columns, hcolumns⟩ := present_isOk_iff.2 hdecoded
    have hmade := toDocument_eq_ok.2 ⟨columns, hcolumns, rfl⟩
    rw [hmade]
    refine congrArg Except.ok (Entries.eq_of_find? (toDocument_sorted hr hmade) hdescribes.sorted ?_)
    intro name value
    rw [find?_toDocument hf hr hmade, hdescribes.find?_iff hr]
  · unfold toDocuments
    simp only [mapM_eq_ok, map_eq_ok]
  · have hshown : ∀ other : Row, (∃ shown, Json.obj <$> toDocument schema other = .ok shown) ↔
        ∃ document, toDocument schema other = .ok document := fun other =>
      ⟨fun ⟨_, h⟩ => (map_eq_ok.1 h).imp fun _ => And.left, fun ⟨_, h⟩ => ⟨_, map_eq_ok.2 ⟨_, h, rfl⟩⟩⟩
    unfold toDocuments
    simp only [mapM_eq_error, hshown, map_eq_error]

/-- Four nulls, each of another kind or place, a column under the name of a
relation, and a column that its declared type makes an object of. -/
theorem nulls_left_out :
    let schema : Schema :=
      { fields := [("data", .object), ("fans", .relation "_User"), ("owner", .pointer "Team"),
          ("score", .number)] }
    let row : Row := [("data", .text "null"), ("fans", .text "u1"), ("note", .json .null),
      ("owner", .text "t1"), ("score", .float .nan), ("seen", .null), ("title", .text "a")]
    let fans := Json.tagged "Relation" [("className", .str "_User")]
    let owner := Json.tagged "Pointer" [("className", .str "Team"), ("objectId", .str "t1")]
    let document := [("fans", fans), ("owner", owner), ("title", .str "a")]
    ((keys schema.fields).Pairwise (· < ·) ∧ (keys row).Pairwise (· < ·)) ∧
    Describes schema row document ∧ toDocuments schema [row, row] = .ok [.obj document, .obj document] := by
  intro schema row fans owner document
  have hf : (keys schema.fields).Pairwise (· < ·) := by decide
  have hr : (keys row).Pairwise (· < ·) := by decide
  have hmade : toDocument schema row = .ok document := rfl
  obtain ⟨hrow, hrows, -⟩ := toDocument_describes hf hr [row, row]
  exact ⟨⟨hf, hr⟩, ((hrow document).1 hmade).2,
    (hrows _).2 (.cons ⟨document, hmade, rfl⟩ (.cons ⟨document, hmade, rfl⟩ .nil))⟩

end Row
end DocSql
