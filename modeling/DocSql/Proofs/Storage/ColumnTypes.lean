import DocSql.Proofs.Outcome
import DocSql.Proofs.Storage.Values
import DocSql.Proofs.Statement.Table

/-!
The form of an encoded value and the type of its column. The one is chosen by
the declared type and, for permissions, by the name; the other is what the
table was made with. Main statement: `Datum.encode_suits_column`.
-/
namespace DocSql

namespace Datum

/-- The column types that take a value of a form. -/
inductive Suits : Datum → String → Prop
  | text (s : String) : Suits (text s) "text"
  | identifier (s : String) (catalog : Catalog) : Suits (text s) catalog.idType
  | int (n : Int) : Suits (int n) "double precision"
  | float (x : Double) : Suits (float x) "double precision"
  | bool (b : Bool) : Suits (bool b) "boolean"
  | timestamp (t : Timestamp) : Suits (timestamp t) "timestamp"
  | point (p : Point) : Suits (point p) "point"
  | polygon (ring : Ring) : Suits (polygon ring) "polygon"
  | textArray (items : List String) : Suits (textArray items) "text[]"
  | json (value : Json) : Suits (json value) "jsonb"

theorem Suits.pointer (s : String) : Suits (Datum.text s) FieldType.idColumnType :=
  identifier s {}

theorem ofNumber_suits (n : Number) : Suits (ofNumber n) "double precision" := by
  unfold ofNumber
  split
  · exact .int _
  · exact .float _

theorem encodeTextArray_form {name : String} {value : Json} {raw : Datum}
    (h : encodeTextArray name value = .ok raw) : ∃ items, raw = textArray items := by
  cases value with
  | arr items =>
    obtain ⟨texts, -, rfl⟩ := map_eq_ok.1 h
    exact ⟨texts, rfl⟩
  | null | bool _ | num _ | str _ | obj _ => cases h

variable {name : String} {type : FieldType} {value : Json} {raw : Datum}

theorem encodeAs_suits (hscalar : type.isScalar → type.Admits value)
    (h : encodeAs name type value = .ok raw) :
    ∃ column, type.columnType = .ok column ∧ raw.Suits column := by
  cases type with
  | string =>
    cases hscalar rfl with
    | string s =>
      cases h
      exact ⟨_, rfl, .text s⟩
  | number =>
    cases hscalar rfl with
    | number n =>
      cases h
      exact ⟨_, rfl, ofNumber_suits n⟩
  | boolean =>
    cases hscalar rfl with
    | boolean b =>
      cases h
      exact ⟨_, rfl, .bool b⟩
  | date =>
    obtain ⟨t, -, rfl⟩ := map_eq_ok.1 h
    exact ⟨_, rfl, .timestamp t⟩
  | pointer target =>
    obtain ⟨id, -, rfl⟩ := map_eq_ok.1 h
    exact ⟨_, rfl, .pointer id⟩
  | file =>
    obtain ⟨file, -, rfl⟩ := map_eq_ok.1 h
    exact ⟨_, rfl, .text file⟩
  | geoPoint =>
    obtain ⟨p, -, rfl⟩ := map_eq_ok.1 h
    exact ⟨_, rfl, .point p.toPoint⟩
  | polygon =>
    obtain ⟨ring, -, rfl⟩ := map_eq_ok.1 h
    exact ⟨_, rfl, .polygon ring⟩
  | object | bytes | array =>
    cases h
    exact ⟨_, rfl, .json value⟩
  | relation target => cases h
  | arrayOf contents =>
    refine ⟨_, rfl, ?_⟩
    by_cases hc : contents = .string
    · subst hc
      obtain ⟨items, rfl⟩ := encodeTextArray_form h
      exact .textArray items
    · -- any other list is kept whole, lists of lists of texts included
      have hjson : encodeAs name (.arrayOf contents) value = .ok (.json value) := by
        cases contents with
        | string => exact absurd rfl hc
        | _ => rfl
      rw [hjson] at h
      cases h
      rw [if_neg hc]
      exact .json value

theorem type_of_permission_column {schema : Schema} (hp : Schema.isPermissionField name)
    (hcolumn : Entries.find? schema.columns name = some type) : type = .arrayOf .string := by
  have hstored := Schema.find?_columns_of_declared (schema.field?_toStorage_permission hp) rfl
  rw [hcolumn] at hstored
  exact Option.some.inj hstored

theorem type_of_identifier_column {schema : Schema}
    (hid : ∀ declared, schema.field? "objectId" = some declared → declared = .string)
    (hcolumn : Entries.find? schema.columns "objectId" = some type) : type = .string := by
  have hstored : schema.toStorage.field? "objectId" = schema.field? "objectId" :=
    schema.field?_toStorage (by decide)
  cases hdeclared : schema.field? "objectId" with
  | some declared =>
    obtain rfl := hid declared hdeclared
    rw [Schema.find?_columns_of_declared (hstored.trans hdeclared) rfl] at hcolumn
    exact (Option.some.inj hcolumn).symm
  | none =>
    have hnone : Entries.find? schema.toStorage.columnFields "objectId" = none := by
      unfold Schema.columnFields
      exact Entries.find?_filter_of_none (fun type => !type.isRelation) (hstored.trans hdeclared)
    rw [Schema.find?_columns, hnone, Option.none_or] at hcolumn
    exact (Option.some.inj hcolumn).symm

/-- A value that is encoded for a column of a table is of the form that the
column was made for. A scalar that is of another type than declared is no
exception of the encoding but a value that nothing converts. -/
theorem encode_suits_column {schema : Schema} (catalog : Catalog)
    (hid : ∀ declared, schema.field? "objectId" = some declared → declared = .string)
    (hcolumn : Entries.find? schema.columns name = some type) (hnull : value.isNull = false)
    (hscalar : type.isScalar → type.Admits value) (h : encode name (some type) value = .ok raw) :
    ∃ column, catalog.columnType name type = .ok column ∧ raw.Suits column ∧
      (name ≠ "objectId" → type.columnType = .ok column) := by
  unfold encode at h
  rw [if_neg (by simp [hnull])] at h
  by_cases hname : name = "objectId"
  · subst hname
    obtain rfl := type_of_identifier_column hid hcolumn
    cases hscalar rfl with
    | string s =>
      cases h
      exact ⟨_, if_pos rfl, .identifier s catalog, fun hne => absurd rfl hne⟩
  · have hsuits : ∃ column, type.columnType = .ok column ∧ raw.Suits column := by
      split at h
      next hp =>
        obtain rfl := type_of_permission_column hp hcolumn
        obtain ⟨items, rfl⟩ := encodeTextArray_form h
        exact ⟨_, rfl, .textArray items⟩
      next => exact encodeAs_suits hscalar h
    obtain ⟨column, htype, hform⟩ := hsuits
    exact ⟨column, (if_neg hname).trans htype, hform, fun _ => htype⟩

/-- Permissions that a schema declares to be a relation. -/
theorem encode_suits_column_permissions :
    ∃ column, Catalog.columnType {} "_rperm" (.arrayOf .string) = .ok column ∧
      (textArray ["*"]).Suits column ∧
      ("_rperm" ≠ "objectId" → FieldType.columnType (.arrayOf .string) = .ok column) := by
  let schema : Schema := { fields := [("_rperm", .relation "_Role")] }
  have hid : ∀ declared, schema.field? "objectId" = some declared → declared = .string := nofun
  have hcolumn : Entries.find? schema.columns "_rperm" = some (.arrayOf .string) := by decide
  have hencoded : encode "_rperm" (some (.arrayOf .string)) (.arr [.str "*"]) =
      .ok (textArray ["*"]) := rfl
  exact encode_suits_column {} hid hcolumn rfl nofun hencoded

end Datum
end DocSql
