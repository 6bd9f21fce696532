import DocSql.Proofs.Query.Skipping
import DocSql.Proofs.Update.Replacement

/-!
Updates of the columns that a table has without a declaration. Inserting finds
their types in the table; an update knows the declared types only, and that the
dates of creation and change are dates. What does not show its type is therefore
stored in another way, or not at all.
-/
namespace DocSql

open Sql (Assembly Expr)

namespace Schema

variable {schema : Schema} {name : String} {type : FieldType}

theorem mem_of_suppliedColumns {column : String × FieldType}
    (h : column ∈ schema.suppliedColumns) : column ∈ defaultColumns ++ userColumns := by
  unfold suppliedColumns at h
  split at h
  · exact h
  · exact List.mem_append_left _ (List.append_nil defaultColumns ▸ h)

theorem find?_suppliedColumns (h : (name, type) ∈ schema.suppliedColumns) :
    Entries.find? schema.suppliedColumns name = some type := by
  have hdefault : ∀ column ∈ defaultColumns,
      Entries.find? defaultColumns column.1 = some column.2 := by decide
  have hall : ∀ column ∈ defaultColumns ++ userColumns,
      Entries.find? (defaultColumns ++ userColumns) column.1 = some column.2 := by decide
  unfold suppliedColumns at h ⊢
  split
  next huser =>
    rw [if_pos huser] at h
    exact hall (name, type) h
  next hother =>
    rw [if_neg hother, List.append_nil] at h
    rw [List.append_nil]
    exact hdefault (name, type) h

theorem find?_columns_of_supplied (h : (name, type) ∈ schema.suppliedColumns)
    (hu : schema.toStorage.field? name = none) : Entries.find? schema.columns name = some type := by
  have hcolumn : Entries.find? schema.toStorage.columnFields name = none := by
    unfold columnFields
    exact Entries.find?_filter_of_none (fun type => !type.isRelation) hu
  rw [find?_columns, hcolumn, Option.none_or, find?_suppliedColumns h]

theorem supplied_plain (h : (name, type) ∈ schema.suppliedColumns) :
    isInjected name = false ∧ Sql.isDotted name = false ∧ name ≠ "authData" ∧
      Update.provider? name = none ∧ (isDefaultDate name → type = .date) ∧
      type ∈ [.string, .number, .date, .array] := by
  have hall : ∀ column ∈ defaultColumns ++ userColumns, isInjected column.1 = false ∧
      Sql.isDotted column.1 = false ∧ column.1 ≠ "authData" ∧ Update.provider? column.1 = none ∧
      (isDefaultDate column.1 → column.2 = .date) ∧
      column.2 ∈ [.string, .number, .date, .array] := by decide +kernel
  exact hall (name, type) (mem_of_suppliedColumns h)

end Schema

theorem Insert.expression_of_supplied {schema : Schema} {name : String} {type : FieldType}
    {value : Json} (hc : (name, type) ∈ schema.suppliedColumns) (hu : schema.field? name = none)
    (hv : type.Admits value) :
    expression schema name value = Expr.ofDatum <$> Datum.encodeAs name type value := by
  obtain ⟨hi, -⟩ := Schema.supplied_plain hc
  have hpermission : Schema.isPermissionField name → type = .arrayOf .string := by
    intro h
    rw [Schema.isInjected, h] at hi
    cases hi
  unfold expression
  rw [Schema.find?_columns_of_supplied hc ((schema.field?_toStorage hi).trans hu),
    Datum.encode_of_admits hpermission hv]

namespace Change

/-- Whether a value shows its type where a column is not declared: a bare text is
a date in the default columns only, and a list is nothing without an array. -/
def showsType (name : String) : FieldType → Json → Bool
  | .date, .str _ => Schema.isDefaultDate name
  | .array, _ => false
  | _, _ => true

variable {name : String} {type : FieldType} {value : Json}

theorem setExpr_shown (ht : type ∈ [.string, .number, .date, .array])
    (hd : Schema.isDefaultDate name → type = .date) (hv : type.Admits value)
    (hs : showsType name type value) :
    setExpr name none value =
      (fun datum => some (Expr.ofDatum datum)) <$> Datum.encodeAs name type value := by
  cases hv with
  | string s =>
    have hname : Schema.isDefaultDate name = false :=
      Bool.eq_false_iff.2 fun hname => nomatch hd hname
    unfold setExpr
    rw [hname]
    rfl
  | number n =>
    change Except.ok (some (Expr.param (Datum.ofNumber n))) = _
    rw [← Expr.ofDatum_number n]
    rfl
  | dateText iso =>
    unfold setExpr
    rw [show Schema.isDefaultDate name = true from hs]
    exact set_encoded fun _ => rfl
  | date h =>
    obtain ⟨members, rfl⟩ := Json.obj_of_typeTag? h
    simp only [setExpr, h, Datum.infer, Datum.encodeAs]
    cases Schema.isDefaultDate name with
    | true => exact set_encoded fun _ => rfl
    | false =>
      cases Timestamp.ofJson (.obj members) with
      | _ => rfl
  | list items => cases hs
  | boolean _ | pointer _ | pointerId _ | file _ | fileName _ | geoPoint _ | polygon _ | texts _
    | listOf _ _ | object _ _ | bytes _ => simp at ht

theorem setExpr_text (hname : Schema.isDefaultDate name = false) (s : String) :
    setExpr name none (.str s) = .ok (some (.param (.text s))) := by
  unfold setExpr
  rw [hname]
  rfl

end Change

namespace Update

variable {schema : Schema} {name : String} {type : FieldType} {value : Json}

theorem compile_set {found : Except Error Expr}
    (hread : ofJson (.obj [(name, value)]) = .ok [(name, .set value)])
    (h : Change.setExpr name (schema.toStorage.field? name) value = some <$> found) (first : Nat) :
    compile schema (.obj [(name, value)]) first =
      (fun e => (Sql.identifier name ++ " = " ++ Sql.number (max first 1) e.template,
        e.params)) <$> found := by
  have hexpr : Change.expr name (schema.toStorage.field? name) (.set value) = some <$> found := h
  have hassignments := assignments_single schema.toStorage hexpr
  unfold compile
  rw [hread]
  change Assembly.runFrom first (setClause schema.toStorage [(name, .set value)]) = _
  cases found with
  | error e =>
    unfold setClause
    rw [hassignments]
    rfl
  | ok e => exact Assembly.runFrom_eq (run_setClause hassignments _)

/-- A column that needs no declaration is inserted by its type in the table, and
an update of it writes the same expression, with its parameters, just where the
value shows its type: not for a text as a date of accounts, which stays a text,
nor for a list, which is refused. -/
theorem compile_supplied_iff (hc : (name, type) ∈ schema.suppliedColumns)
    (hu : schema.field? name = none) (hv : type.Admits value) (ho : value.has "__op" = false)
    (first : Nat) :
    Insert.Stores schema name value ∧
    (compile schema (.obj [(name, value)]) first =
      (fun e => (Sql.identifier name ++ " = " ++ Sql.number (max first 1) e.template,
        e.params)) <$> Insert.expression schema name value ↔ Change.showsType name type value) := by
  obtain ⟨hi, hd, ha, hp, hdate, ht⟩ := Schema.supplied_plain hc
  have hmissing : schema.toStorage.field? name = none := (schema.field?_toStorage hi).trans hu
  have hk : Insert.IsColumnKey schema name := ⟨ha, hp, by rw [hu]; rfl⟩
  have hread := ofJson_single hd hk hv ho
  refine ⟨Insert.stores hk (Insert.checkValue_of_admits hv), ?_⟩
  rw [Insert.expression_of_supplied hc hu hv]
  cases hs : Change.showsType name type value with
  | true =>
    refine iff_of_true (compile_set hread ?_ first) rfl
    rw [hmissing, Change.setExpr_shown ht hdate hv hs, ← comp_map]
    rfl
  | false =>
    refine iff_of_false (fun heq => ?_) Bool.false_ne_true
    have hset {found : Except Error Expr} (h : Change.setExpr name none value = some <$> found) :=
      compile_set hread (hmissing ▸ h) first
    -- Only a text for a date and a list do not show their types.
    cases hv with
    | dateText iso =>
      have htext : Change.setExpr name none (.str iso) = some <$> .ok (.param (.text iso)) :=
        Change.setExpr_text hs iso
      rw [hset htext, Datum.encodeAs] at heq
      cases hdate : Timestamp.ofJson (.str iso) with
      | error e =>
        rw [hdate] at heq
        cases heq
      | ok instant =>
        rw [hdate] at heq
        cases heq
    | list items =>
      have hrefused : Change.setExpr name none (.arr items) = some <$> .error
          (Change.unsupportedUpdate name "array assignment to a non-Array field") := rfl
      rw [hset hrefused] at heq
      cases heq
    | date h =>
      obtain ⟨members, rfl⟩ := Json.obj_of_typeTag? h
      cases hs
    | string _ | number _ => cases hs
    | boolean _ | pointer _ | pointerId _ | file _ | fileName _ | geoPoint _ | polygon _ | texts _
      | listOf _ _ | object _ _ | bytes _ => simp at ht

/-- A tagged date shows its type. -/
theorem password_change_replaced :
    let schema : Schema := { className := "_User" }
    let date : Json := .obj [("__type", .str "Date"), ("iso", .str "2020-01-01T00:00:00.000Z")]
    (("_password_changed_at", FieldType.date) ∈ schema.suppliedColumns ∧
      schema.field? "_password_changed_at" = none ∧ FieldType.date.Admits date ∧
      date.has "__op" = false) ∧
    Insert.Stores schema "_password_changed_at" date ∧
    compile schema (.obj [("_password_changed_at", date)]) 3 =
      .ok ("\"_password_changed_at\" = $3", [.timestamp ⟨1577836800, 0⟩]) := by
  intro schema date
  have hc : ("_password_changed_at", FieldType.date) ∈ schema.suppliedColumns := by decide
  have hv : FieldType.date.Admits date := .date rfl
  obtain ⟨hstores, hcompile⟩ := compile_supplied_iff hc rfl hv rfl 3
  refine ⟨⟨hc, rfl, hv, rfl⟩, hstores, ?_⟩
  rw [hcompile.2 (by decide), Insert.expression_of_supplied hc rfl hv]
  rfl

/-- The same instant as a text, and a list of former passwords. -/
theorem password_change_kept_as_text :
    let schema : Schema := { className := "_User" }
    let iso : Json := .str "2020-01-01T00:00:00.000Z"
    let former : Json := .arr [.str "a"]
    Insert.expression schema "_password_changed_at" iso =
      .ok (.param (.timestamp ⟨1577836800, 0⟩)) ∧
    compile schema (.obj [("_password_changed_at", iso)]) 1 =
      .ok ("\"_password_changed_at\" = $1", [.text "2020-01-01T00:00:00.000Z"]) ∧
    Insert.expression schema "_password_history" former = .ok (.json former) ∧
    compile schema (.obj [("_password_history", former)]) 1 = .error (.unsupported
      "Postgres doesn't support update of '_password_history' (array assignment to a non-Array field) yet") := by
  dsimp only
  exact ⟨by rfl, by rfl, by rfl, by rfl⟩

end Update
end DocSql
