import DocSql.Proofs.Query.Compiling
import DocSql.Proofs.Statement.Row

/-!
Equality finds what inserting stores. A query reads a value by its tag and then
by the type of the field, an insert by the type alone; for the types whose
values are compared as they are both come to the same expression.
-/
namespace DocSql

open Sql (Expr Filter Predicate Relation)

namespace FieldType

def isComparable : FieldType → Bool
  | string | number | boolean | date | pointer _ | geoPoint | polygon => true
  | _ => false

/-- Points and polygons are equal where their shapes are, all other values where they are. -/
def equality : FieldType → Relation
  | geoPoint | polygon => .sameShape
  | _ => .eq

end FieldType

theorem Update.provider?_of_name {name : String} (h : Clause.IsFieldName name) :
    provider? name = none := by
  unfold provider?
  rw [if_neg]
  intro hprefix
  have hstart : name.startsWith "_auth_data_" :=
    String.startsWith_string_iff.2 (List.isPrefixOf_iff_prefix.1 hprefix)
  rw [h.2] at hstart
  cases hstart

namespace Target

variable {scope : Scope} {name : String} {type : FieldType} {value : Json}

def comparesWith (name : String) (type : FieldType) (datum : Datum) : Predicate :=
  .compare (.column name) type.equality (Expr.ofDatum datum)

theorem patternOf_comparesWith (next : Nat) (name : String) (type : FieldType) (datum : Datum) :
    Filter.patternOf next [comparesWith name type datum] =
      Sql.identifier name ++ " " ++ type.equality.symbol ++ " " ++
        Sql.number next (Expr.ofDatum datum).template := by
  have hjoint (relation : Relation) : Sql.isPlain (" " ++ relation.symbol ++ " ").toList := by
    cases relation with
    | _ => rfl
  have htemplate : (Predicate.and [comparesWith name type datum]).template =
      Sql.identifier name ++ (" " ++ type.equality.symbol ++ " ") ++
        (Expr.ofDatum datum).template := by
    simp only [comparesWith, Predicate.template, Predicate.templates, Expr.template_column,
      String.intercalate_singleton, String.append_assoc]
  unfold Filter.patternOf
  rw [htemplate, Sql.number_named name (hjoint _)]
  simp only [List.isEmpty_cons, Bool.false_eq_true, if_false, String.append_assoc]

theorem clause_single {t : Target} {condition : Condition} (found : Except Error Predicate)
    (hk : t.skips condition = false)
    (h : t.conditions scope condition = (fun p => [p]) <$> found) :
    t.clause scope condition = (fun p => [p]) <$> found := by
  unfold clause
  rw [hk, h]
  cases found with
  | error e => rfl
  | ok p => rfl

theorem equals_scalar (hs : scope.foldCase = false) (hd : Sql.isDotted name = false)
    (ha : type.isArray = false) {v : Scalar} (hb : ∀ b, v = .bool b → type ≠ .number) :
    equals scope ⟨name, some type⟩ v.toJson =
      (fun datum => .compare (.column name) .eq (.param datum)) <$>
        operand ⟨name, some type⟩ v.toJson := by
  have hrelative : rejectRelativeTime v.toJson = .ok () := by
    cases v with
    | string _ | number _ | bool _ => rfl
  have hdotted : isDotted ⟨name, some type⟩ = false := hd
  have harray : isArray ⟨name, some type⟩ = false := ha
  unfold equals
  rw [hrelative, hdotted, harray, column_undotted hd]
  cases v with
  | string s =>
    rw [hs]
    rfl
  | number n => rfl
  | bool b =>
    cases type with
    | number => exact absurd rfl (hb b rfl)
    | _ => rfl

theorem clause_scalar (hs : scope.foldCase = false) (hd : Sql.isDotted name = false)
    (ha : type.isArray = false) {v : Scalar} (hb : ∀ b, v = .bool b → type ≠ .number) :
    clause scope ⟨name, some type⟩ (.scalar v) =
      (fun datum => [.compare (.column name) .eq (.param datum)]) <$>
        operand ⟨name, some type⟩ v.toJson := by
  have hfound : conditions scope ⟨name, some type⟩ (.scalar v) = (fun p => [p]) <$>
      (fun datum => .compare (.column name) .eq (.param datum)) <$>
        operand ⟨name, some type⟩ v.toJson := by
    rw [← equals_scalar hs hd ha hb]
    rfl
  rw [clause_single _ rfl hfound, ← comp_map]
  rfl

theorem clause_date (hd : Sql.isDotted name = false) (t : Timestamp) :
    clause scope ⟨name, some .date⟩ (.date t) = .ok [comparesWith name .date (.timestamp t)] := by
  refine clause_single (.ok (comparesWith name .date (.timestamp t))) rfl ?_
  rw [conditions, column_undotted hd]
  rfl

theorem clause_geoPoint (hd : Sql.isDotted name = false) (p : GeoPoint) :
    clause scope ⟨name, some .geoPoint⟩ (.geoPoint p) =
      .ok [comparesWith name .geoPoint (.point p.toPoint)] := by
  refine clause_single (.ok (comparesWith name .geoPoint (.point p.toPoint))) rfl ?_
  rw [conditions, column_undotted hd]
  rfl

theorem clause_pointer (hd : Sql.isDotted name = false) (target : String) {id : String}
    (h : Datum.pointerId value = .ok id) :
    clause scope ⟨name, some (.pointer target)⟩ (.pointer value) =
      .ok [comparesWith name (.pointer target) (.text id)] := by
  refine clause_single (.ok (comparesWith name (.pointer target) (.text id))) rfl ?_
  rw [conditions, column_undotted hd, h]
  rfl

theorem clause_polygon (hd : Sql.isDotted name = false) (value : Json) :
    clause scope ⟨name, some .polygon⟩ (.polygon value) =
      (fun datum => [comparesWith name .polygon datum]) <$> Datum.polygon <$>
        Ring.ofJson value := by
  rw [← comp_map, clause_single
    ((comparesWith name .polygon ∘ Datum.polygon) <$> Ring.ofJson value) rfl, ← comp_map]
  · rfl
  · rw [conditions, column_undotted hd]
    cases Ring.ofJson value with
    | error e => rfl
    | ok ring => rfl

theorem clause_of_admits (hs : scope.foldCase = false) (hd : Sql.isDotted name = false)
    (hc : type.isComparable) (hv : type.Admits value) :
    (do clause scope ⟨name, some type⟩ (← Condition.ofJson value)) =
      (fun datum => [comparesWith name type datum]) <$> Datum.encodeAs name type value := by
  cases hv with
  | string s =>
    change clause scope ⟨name, some .string⟩ (.scalar (.string s)) = _
    rw [clause_scalar (v := .string s) hs hd rfl nofun]
    rfl
  | number n =>
    change clause scope ⟨name, some .number⟩ (.scalar (.number n)) = _
    rw [clause_scalar (v := .number n) hs hd rfl nofun]
    change Except.ok [Predicate.compare _ _ (.param (Datum.ofNumber n))] = _
    rw [← Expr.ofDatum_number n]
    rfl
  | boolean b =>
    have hboolean : ∀ c, Scalar.bool b = .bool c → FieldType.boolean ≠ .number := fun _ _ => nofun
    change clause scope ⟨name, some .boolean⟩ (.scalar (.bool b)) = _
    rw [clause_scalar hs hd rfl hboolean]
    rfl
  | dateText iso =>
    change clause scope ⟨name, some .date⟩ (.scalar (.string iso)) = _
    rw [clause_scalar (v := .string iso) hs hd rfl nofun]
    change _ <$> Datum.timestamp <$> Timestamp.ofJson (.str iso) =
      _ <$> Datum.timestamp <$> Timestamp.ofJson (.str iso)
    rw [← comp_map, ← comp_map]
    rfl
  | @pointerId target id =>
    change clause scope ⟨name, some (.pointer target)⟩ (.scalar (.string id)) = _
    rw [clause_scalar (v := .string id) hs hd rfl nofun]
    rfl
  | date h =>
    obtain ⟨members, rfl⟩ := Json.obj_of_typeTag? h
    simp only [Condition.ofJson, h, Datum.encodeAs]
    cases Timestamp.ofJson (.obj members) with
    | error e => rfl
    | ok t =>
      change clause scope ⟨name, some .date⟩ (.date t) = _
      exact clause_date hd t
  | @pointer target _ h =>
    obtain ⟨members, rfl⟩ := Json.obj_of_typeTag? h
    simp only [Condition.ofJson, h, Datum.encodeAs]
    cases hid : Datum.pointerId (.obj members) with
    | error e => rfl
    | ok id => exact clause_pointer hd target hid
  | geoPoint h =>
    obtain ⟨members, rfl⟩ := Json.obj_of_typeTag? h
    simp only [Condition.ofJson, h, Datum.encodeAs]
    cases GeoPoint.ofJson (.obj members) with
    | error e => rfl
    | ok p =>
      change clause scope ⟨name, some .geoPoint⟩ (.geoPoint p) = _
      exact clause_geoPoint hd p
  | polygon h =>
    obtain ⟨members, rfl⟩ := Json.obj_of_typeTag? h
    simp only [Condition.ofJson, h, Datum.encodeAs]
    exact clause_polygon hd (.obj members)
  | texts _ | list _ | listOf _ _ | object _ _ | bytes _ | file _ | fileName _ => cases hc

end Target

namespace Query

/-- Inserting a value and asking for it come to one expression: the insert
writes it into the column, the query compares the column with it, each with the
parameters of the expression where its placeholders point. Either of them fails
just where the value cannot be encoded. -/
theorem compile_finds_stored {schema : Schema} {name : String} {type : FieldType} {value : Json}
    (hn : Clause.IsFieldName name) (hd : Sql.isDotted name = false) (hp : name ≠ "authData")
    (hi : Schema.isInjected name = false) (hf : schema.field? name = some type)
    (hc : type.isComparable) (hv : type.Admits value) (now : Timestamp) (first : Nat) :
    Insert.Stores schema name value ∧
      compile (.ofSchema schema now) (.obj [(name, value)]) first =
        (fun e => (⟨Sql.identifier name ++ " " ++ type.equality.symbol ++ " " ++
          Sql.number (max first 1) e.template, []⟩, e.params)) <$>
            Insert.expression schema name value := by
  have hstorage : schema.toStorage.field? name = some type := by
    rw [schema.field?_toStorage hi, hf]
  have hkey : Insert.IsColumnKey schema name :=
    ⟨hp, Update.provider?_of_name hn, by rw [hf]; exact hv.not_relation⟩
  refine ⟨Insert.stores hkey (Insert.checkValue_of_admits hv), ?_⟩
  have htarget : (Scope.ofSchema schema now).target name = ⟨name, some type⟩ :=
    congrArg (Target.mk name) hstorage
  rw [compile_single _ hn, htarget, ← bind_assoc, Target.clause_of_admits rfl hd hc hv,
    Insert.expression_of_declared hstorage hv]
  cases Datum.encodeAs name type value with
  | error e => rfl
  | ok datum =>
    have hparams : Predicate.paramsAll [Target.comparesWith name type datum] =
        (Expr.ofDatum datum).params := List.append_nil _
    change Except.ok (Sql.Filter.mk (Filter.patternOf _ [Target.comparesWith name type datum]) [],
      Predicate.paramsAll _) = _
    rw [Target.patternOf_comparesWith, hparams]
    rfl

/-- A point is written and asked for by longitude and latitude, in this order. -/
theorem place_finds_stored :
    let schema : Schema := { className := "Shop", fields := [("place", .geoPoint)] }
    let value : Json := .obj
      [("__type", .str "GeoPoint"), ("latitude", .int 52), ("longitude", .int 13)]
    (Clause.IsFieldName "place" ∧ Sql.isDotted "place" = false ∧ "place" ≠ "authData" ∧
      Schema.isInjected "place" = false ∧ schema.field? "place" = some .geoPoint ∧
      FieldType.geoPoint.isComparable ∧ FieldType.geoPoint.Admits value) ∧
    Insert.Stores schema "place" value ∧
    Insert.expression schema "place" value = .ok (.point ⟨.ofInt 13, .ofInt 52⟩) ∧
    compile (.ofSchema schema ⟨0, 0⟩) (.obj [("place", value)]) 3 =
      .ok (⟨"\"place\" ~= POINT($3, $4)", []⟩, [.float (.ofInt 13), .float (.ofInt 52)]) := by
  intro schema value
  have hn : Clause.IsFieldName "place" := by decide +kernel
  have hf : schema.field? "place" = some .geoPoint := rfl
  have hv : FieldType.geoPoint.Admits value := .geoPoint rfl
  have hpoint : GeoPoint.ofJson value = .ok ⟨.ofInt 52, .ofInt 13⟩ := by
    have hlatitude : GeoPoint.within 90 (.ofInt 52) := by decide +kernel
    have hlongitude : GeoPoint.within 180 (.ofInt 13) := by decide +kernel
    simp [value, GeoPoint.ofJson, Json.typeTag?, Json.getStr?, Json.get?, Entries.find?, Json.str?,
      Json.toDouble?, Json.num?, Number.toDouble, GeoPoint.make, hlatitude, hlongitude]
  have hexpr : Insert.expression schema "place" value =
      .ok (.point ⟨.ofInt 13, .ofInt 52⟩) := by
    rw [Insert.expression_of_declared rfl hv, Datum.encodeAs, hpoint]
    rfl
  obtain ⟨hstores, hcompile⟩ :=
    compile_finds_stored hn (by decide) (by decide) (by decide) hf rfl hv ⟨0, 0⟩ 3
  refine ⟨⟨hn, by decide, by decide, by decide, hf, rfl, hv⟩, hstores, hexpr, ?_⟩
  rw [hcompile, hexpr]
  rfl

end Query
end DocSql
