import DocSql.Proofs.Sql.Positions
import DocSql.Proofs.Statement.Row

/-!
Updating stores what inserting stores. A replaced value is read by its tag and
then by the type of the field, an inserted one by the type alone; for every
value of a type both write the same expression.
-/
namespace DocSql

open Sql (Assembly Builder Expr Fragment)

namespace Sql

theorem segments_undotted {name : String} (h : isDotted name = false) :
    segments name = [name] := by
  have habsent : '.' ∉ name.toList := by simpa [isDotted] using h
  rw [segments, List.splitOn_eq_singleton habsent, List.map_singleton, String.ofList_toList]

end Sql

namespace Change

variable {name : String} {type : FieldType} {value : Json}

theorem ofJson_of_admits (hv : type.Admits value) (ho : value.has "__op" = false) :
    ofJson value = .ok (set value) := by
  have hoperation : operation? value = none := by
    rw [Json.has, Option.isSome_eq_false_iff, Option.isNone_iff_eq_none] at ho
    rw [operation?, Json.getStr?, ho]
    rfl
  simp [ofJson, hv.not_null, hoperation]

theorem set_encoded {α : Type} {work : Except Error α} {write : α → Expr} {encode : α → Datum}
    (h : ∀ a, write a = Expr.ofDatum (encode a)) :
    (do return some (write (← work))) =
      (fun datum => some (Expr.ofDatum datum)) <$> encode <$> work := by
  cases work with
  | error e => rfl
  | ok a => exact congrArg (Except.ok ∘ some) (h a)

theorem setExpr_object {members : List (String × Json)}
    (ht : ∀ tag ∈ FieldType.valueTags, (Json.obj members).typeTag? ≠ some tag) :
    setExpr name (some .object) (.obj members) = .ok (some (.json (.obj members))) := by
  simp only [FieldType.valueTags, List.forall_mem_cons] at ht
  obtain ⟨hdate, hpointer, hpoint, hpolygon, hfile, hrelation, -⟩ := ht
  -- with all six tags excluded, only the object and its type are left to go by
  simp only [setExpr]
  rfl

theorem setExpr_of_admits (hd : Schema.isDefaultDate name → type = .date) (hv : type.Admits value) :
    setExpr name (some type) value =
      (fun datum => some (Expr.ofDatum datum)) <$> Datum.encodeAs name type value := by
  have hdefault (h : type ≠ .date) : Schema.isDefaultDate name = false := by
    cases hname : Schema.isDefaultDate name with
    | false => rfl
    | true => exact absurd (hd hname) h
  cases hv with
  | string s | pointerId s | fileName s =>
    unfold setExpr
    rw [hdefault nofun]
    rfl
  | number n =>
    change Except.ok (some (Expr.param (Datum.ofNumber n))) = _
    rw [← Expr.ofDatum_number n]
    rfl
  | boolean b => rfl
  | dateText iso => exact set_encoded fun _ => rfl
  | date h | geoPoint h | polygon h =>
    obtain ⟨members, rfl⟩ := Json.obj_of_typeTag? h
    simp only [setExpr, h, Datum.encodeAs]
    exact set_encoded fun _ => rfl
  | pointer h | file h =>
    obtain ⟨members, rfl⟩ := Json.obj_of_typeTag? h
    simp only [setExpr, h, Datum.infer, Datum.encodeAs]
    rw [bind_map_left]
    exact set_encoded fun _ => rfl
  | texts items =>
    change (do return some (Expr.ofDatum (← Datum.encode _ _ _))) = _
    rw [Datum.encode_of_admits (fun _ => rfl) (.texts items)]
    cases Datum.encodeAs name (.arrayOf .string) (.arr (items.map .str)) with
    | error e => rfl
    | ok datum => rfl
  | list items => rfl
  | @listOf contents h items =>
    cases contents with
    | string => exact absurd rfl h
    | _ => rfl
  | object hk ht => exact setExpr_object ht
  | bytes h =>
    obtain ⟨members, rfl⟩ := Json.obj_of_typeTag? h
    simp only [setExpr, h, Datum.encodeAs]
    rfl

end Change

namespace Update

variable {schema : Schema} {name : String} {type : FieldType} {value : Json}

theorem providers?_plain (hp : provider? name = none) (hn : name ≠ "authData") (value : Json) :
    providers? name value = none := by
  unfold providers?
  rw [hp]
  cases value with
  | obj members => exact if_neg hn
  | null | bool _ | num _ | str _ | arr _ => rfl

theorem ofJson_plain (hd : Sql.isDotted name = false) (hp : providers? name value = none) :
    ofJson (.obj [(name, value)]) = (fun change => [(name, change)]) <$> Change.ofJson value := by
  simp only [ofJson, addMembers, hp, addField, Sql.segments_undotted hd]
  cases Change.ofJson value with
  | error e => rfl
  | ok change => rfl

theorem ofJson_single (hd : Sql.isDotted name = false) (hk : Insert.IsColumnKey schema name)
    (hv : type.Admits value) (ho : value.has "__op" = false) :
    ofJson (.obj [(name, value)]) = .ok [(name, .set value)] := by
  rw [ofJson_plain hd (providers?_plain hk.isNoProvider hk.isPlain value),
    Change.ofJson_of_admits hv ho]
  rfl

theorem assignments_single (schema : Schema) {change : Change} {found : Except Error Expr}
    (h : change.expr name (schema.field? name) = some <$> found) :
    assignments schema [(name, change)] = (fun e => [⟨name, e⟩]) <$> found := by
  unfold assignments
  rw [List.mapM_cons, List.mapM_nil]
  dsimp only
  rw [h]
  cases found with
  | error e => rfl
  | ok e => rfl

theorem run_setClause {update : Update} {e : Expr}
    (h : assignments schema update = .ok [⟨name, e⟩]) (b : Builder) :
    (setClause schema update).run b =
      .ok (Sql.identifier name ++ " = " ++ Sql.number b.next e.template, b.push e.params) := by
  have htemplate : String.intercalate ", " ([Assignment.mk name e].map Assignment.template) =
      Sql.identifier name ++ " = " ++ e.template := by
    rw [List.map_singleton, String.intercalate_singleton]
    rfl
  have hparams : ([Assignment.mk name e].flatMap fun a => a.value.params) = e.params :=
    List.append_nil e.params
  rw [run_assignments h (List.cons_ne_nil _ _), htemplate, hparams, Sql.number_named name rfl]

def assigned (schema : Schema) (document : Json) : Except Error (List Assignment) := do
  assignments schema.toStorage (← ofJson document)

theorem compile_single {document : Json} {change : Change} {e : Expr}
    (hread : ofJson document = .ok [(name, change)])
    (hexpr : change.expr name (schema.toStorage.field? name) = .ok (some e)) (first : Nat) :
    assigned schema document = .ok [⟨name, e⟩] ∧
      compile schema document first =
        .ok (Sql.identifier name ++ " = " ++ e.textFrom (max first 1), e.params) := by
  have hplain : e.IsPlain := (change.expr_yields name _).result hexpr e rfl
  have hfound : change.expr name (schema.toStorage.field? name) = some <$> .ok e := hexpr
  have hassignments : assignments schema.toStorage [(name, change)] = .ok [⟨name, e⟩] :=
    assignments_single schema.toStorage hfound
  have hrun := run_setClause hassignments (.startingAt first)
  rw [Builder.next_startingAt, Expr.number_template hplain] at hrun
  unfold assigned compile
  rw [hread]
  exact ⟨hassignments, Assembly.runFrom_eq hrun⟩

/-- Inserting a value and replacing a column by it write one expression, each
with the parameters of the expression where its placeholders point, and either
of them fails just where the value cannot be encoded. The type of the field is
that of the storage view: the declared one, or texts for permissions. -/
theorem compile_replaces_as_stored (hd : Sql.isDotted name = false)
    (hk : Insert.IsColumnKey schema name) (hf : schema.toStorage.field? name = some type)
    (hdate : Schema.isDefaultDate name → type = .date) (hv : type.Admits value)
    (ho : value.has "__op" = false) (first : Nat) :
    Insert.Stores schema name value ∧
      compile schema (.obj [(name, value)]) first =
        (fun e => (Sql.identifier name ++ " = " ++ Sql.number (max first 1) e.template,
          e.params)) <$> Insert.expression schema name value := by
  refine ⟨Insert.stores hk (Insert.checkValue_of_admits hv), ?_⟩
  have hset : Change.expr name (schema.toStorage.field? name) (.set value) =
      some <$> Insert.expression schema name value := by
    rw [hf, Insert.expression_of_declared hf hv, ← comp_map]
    exact Change.setExpr_of_admits hdate hv
  have hassignments := assignments_single schema.toStorage hset
  unfold compile
  rw [ofJson_single hd hk hv ho]
  change Assembly.runFrom first (setClause schema.toStorage [(name, .set value)]) = _
  cases he : Insert.expression schema name value with
  | error e =>
    rw [he] at hassignments
    unfold setClause
    rw [hassignments]
    rfl
  | ok e =>
    rw [he] at hassignments
    exact Assembly.runFrom_eq (run_setClause hassignments _)

/-- A date inside an object stays JSON, in an update as in an insert. -/
theorem profile_replaces_as_stored :
    let schema : Schema := { className := "Player", fields := [("profile", .object)] }
    let value : Json := .obj [("joined", .obj
      [("__type", .str "Date"), ("iso", .str "2024-02-29T23:30:00.250Z")]), ("tags", .arr [.null])]
    (Sql.isDotted "profile" = false ∧ Insert.IsColumnKey schema "profile" ∧
      schema.toStorage.field? "profile" = some .object ∧
      (Schema.isDefaultDate "profile" → FieldType.object = .date) ∧
      FieldType.object.Admits value ∧ value.has "__op" = false) ∧
    Insert.Stores schema "profile" value ∧
    compile schema (.obj [("profile", value)]) 3 =
      .ok ("\"profile\" = $3::jsonb", [.json value]) := by
  intro schema value
  have hk : Insert.IsColumnKey schema "profile" := ⟨by decide, by decide, rfl⟩
  have hf : schema.toStorage.field? "profile" = some .object := by decide
  have hv : FieldType.object.Admits value := .object (by decide) (by decide)
  have hdate : Schema.isDefaultDate "profile" → FieldType.object = .date := by decide
  obtain ⟨hstores, hcompile⟩ :=
    compile_replaces_as_stored (by decide) hk hf hdate hv rfl 3
  refine ⟨⟨by decide, hk, hf, hdate, hv, rfl⟩, hstores, ?_⟩
  have htext : Sql.number 3 (Expr.json value).template = "$3::jsonb" := by
    change Sql.number 3 ("?" ++ "::" ++ "jsonb") = _
    rfl
  rw [hcompile, Insert.expression_of_declared hf hv]
  change Except.ok (Sql.identifier "profile" ++ " = " ++ Sql.number 3 (Expr.json value).template,
    [Datum.json value]) = _
  rw [htext]
  rfl

end Update
end DocSql
