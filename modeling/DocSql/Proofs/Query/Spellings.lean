import DocSql.Proofs.Query.Inequality

/-!
A value on its own and the same value under `$eq`. The first is read by its tag,
the second by the kind of the field. Scalars come to the same condition; a
pointer, a date and a shape only where both readings agree.
-/
namespace DocSql

open Sql (Expr Filter Predicate)

def Json.bareTags : List String := ["Pointer", "Date", "GeoPoint", "Polygon"]

theorem Json.mem_bareTags {tag : String} (h : tag ∈ bareTags) :
    tag = "Pointer" ∨ tag = "Date" ∨ tag = "GeoPoint" ∨ tag = "Polygon" := by
  simpa [bareTags] using h

/-- A value that a query takes on its own. -/
inductive Json.IsBare : Json → Prop
  | null : IsBare null
  | scalar (v : Scalar) : IsBare v.toJson
  | tagged {value : Json} {tag : String} (h : value.typeTag? = some tag) (ht : tag ∈ bareTags)
    (hr : value.has "$relativeTime" = false) : IsBare value

theorem Json.IsBare.arr?_eq_none {value : Json} (h : value.IsBare) : value.arr? = none := by
  cases h with
  | null => rfl
  | scalar v =>
    cases v with
    | _ => rfl
  | tagged h _ _ =>
    obtain ⟨members, rfl⟩ := Json.obj_of_typeTag? h
    rfl

namespace Target

variable (scope : Scope) (t : Target)

def isPointer : Bool :=
  match t.type? with
  | some (.pointer _) => true
  | _ => false

def readsAlike (value : Json) : Bool :=
  match value.typeTag? with
  | some "Pointer" => !(t.isArray && t.isDotted)
  | some "Date" => !t.isDotted && !t.isArray && !t.isPointer
  | some "GeoPoint" | some "Polygon" => false
  | _ => true

/-- Whether both spellings of a value come to the same condition. A value that
cannot be read fails on its own, and under `$eq` where it is read there at all. -/
def spellsAlike (value : Json) : Bool :=
  if (Datum.infer value).isOk then t.readsAlike value
  else if t.isDotted then value.typeTag? = some "Pointer" ∨ value.typeTag? = some "Date"
  else !t.isArray && !(t.isPointer && (Datum.pointerId value).isOk)

def shown (next : Nat) (p : Predicate) : String × List Datum :=
  (Filter.patternOf next [p], p.params)

/-- Two conditions are written the same, or neither can be made. -/
def Alike (next : Nat) (made other : Except Error Predicate) : Prop :=
  made.toOption.map (shown next) = other.toOption.map (shown next)

def bareTest (value : Json) : Except Error Predicate :=
  match value.typeTag? with
  | some "Pointer" => (fun id => if t.isArray then t.arrayTest "array_contains" [value]
      else .compare t.column .eq (.text id)) <$> Datum.pointerId value
  | some "Date" =>
    (fun instant => .compare t.column .eq (.param (.timestamp instant))) <$> Timestamp.ofJson value
  | some "GeoPoint" =>
    (fun p => .compare t.column .sameShape (.point p.toPoint)) <$> GeoPoint.ofJson value
  | _ => (fun ring => .compare t.column .sameShape (.polygon ring)) <$> Ring.ofJson value

variable {scope t} {value : Json} {tag : String}

theorem clause_bareTest (h : value.typeTag? = some tag) (ht : tag ∈ Json.bareTags) :
    (do t.clause scope (← Condition.ofJson value)) = (fun p => [p]) <$> t.bareTest value := by
  obtain ⟨members, rfl⟩ := Json.obj_of_typeTag? h
  have hread {condition : Condition} {work : Except Error Predicate}
      (hk : t.skips condition = false)
      (hw : t.conditions scope condition = (fun p => [p]) <$> work) :
      (do t.clause scope (← Except.ok condition)) = (fun p => [p]) <$> work :=
    clause_single work hk hw
  obtain rfl | rfl | rfl | rfl := Json.mem_bareTags ht
  · simp only [Condition.ofJson, bareTest, h]
    cases hid : Datum.pointerId (.obj members) with
    | error e => rfl
    | ok id =>
      refine hread rfl ?_
      simp only [conditions, hid]
      cases t.isArray with
      | _ => rfl
  · simp only [Condition.ofJson, bareTest, h]
    cases Timestamp.ofJson (.obj members) with
    | error e => rfl
    | ok instant => exact hread rfl rfl
  · simp only [Condition.ofJson, bareTest, h]
    cases GeoPoint.ofJson (.obj members) with
    | error e => rfl
    | ok p => exact hread rfl rfl
  · simp only [Condition.ofJson, bareTest, h]
    refine hread rfl ?_
    rw [conditions]
    cases Ring.ofJson (.obj members) with
    | error e => rfl
    | ok ring => rfl

/-- What a tagged value under `$eq` is compared with, outside lists. -/
def explicitOperand (t : Target) (value : Json) : Except Error Datum :=
  if t.isDotted then
    match value.typeTag? with
    | some "Date" => (fun instant => .text instant.iso) <$> Timestamp.ofJson value
    | some "Pointer" => .text <$> Datum.pointerId value
    | _ => .ok (.text value.text)
  else if t.isPointer then .text <$> Datum.pointerId value
  else Datum.infer value

theorem dottedOperand_tagged (hd : t.isDotted) (h : value.typeTag? = some tag) :
    t.dottedOperand value = (fun d => (t.column, d)) <$> t.explicitOperand value := by
  obtain ⟨members, rfl⟩ := Json.obj_of_typeTag? h
  simp only [dottedOperand, explicitOperand, column, hd, h, if_true]
  by_cases hdate : tag = "Date"
  · subst hdate
    cases Timestamp.ofJson (.obj members) with
    | _ => rfl
  by_cases hpointer : tag = "Pointer"
  · subst hpointer
    cases Datum.pointerId (.obj members) with
    | _ => rfl
  · simp [hdate, hpointer]

theorem operand_tagged (hd : t.isDotted = false) (h : value.typeTag? = some tag) :
    t.operand value = t.explicitOperand value := by
  obtain ⟨members, rfl⟩ := Json.obj_of_typeTag? h
  obtain ⟨name, type?⟩ := t
  rw [explicitOperand, hd]
  cases type? with
  | none => rfl
  | some type =>
    cases type with
    | _ => rfl

theorem equals_tagged (h : value.typeTag? = some tag) (hr : value.has "$relativeTime" = false) :
    equals scope t value =
      if !t.isDotted && t.isArray then .ok (t.arrayTest "array_contains" [value])
      else (fun d => .compare t.column .eq (.param d)) <$> t.explicitOperand value := by
  have hlist : value.arr? = none := by
    obtain ⟨members, rfl⟩ := Json.obj_of_typeTag? h
    rfl
  unfold equals rejectRelativeTime
  rw [hr, hlist]
  cases hd : t.isDotted with
  | true =>
    rw [dottedOperand_tagged hd h]
    cases t.explicitOperand value with
    | _ => rfl
  | false =>
    rw [← operand_tagged hd h]
    obtain ⟨members, rfl⟩ := Json.obj_of_typeTag? h
    cases t.isArray with
    | _ => rfl

theorem clause_explicit (hn : value.isNull = false) :
    t.clause scope (.operators [.eq value]) = (fun p => [p]) <$> equals scope t value := by
  have hop : operator scope t (.eq value) = some <$> equals scope t value := by
    cases value with
    | null => cases hn
    | _ => rfl
  refine clause_single _ (by simp [skips]) ?_
  rw [conditions_operators, List.mapM_cons, hop]
  cases equals scope t value with
  | _ => rfl

theorem arrayTest_params (function : String) (items : List Json) :
    (t.arrayTest function items).params = [.json (.arr items)] := by
  have harray : t.arrayColumn.params = [] := by
    unfold arrayColumn
    split
    · exact column_params
    · exact column_params
  rw [arrayTest, Predicate.params, Expr.params, harray]
  rfl

theorem compare_params (relation : Sql.Relation) (e : Expr) :
    (Predicate.compare t.column relation e).params = e.params := by
  rw [Predicate.params, column_params, List.nil_append]

variable {next : Nat} {p q : Predicate} {made other : Except Error Predicate}

theorem alike_of_error (h : made.isOk = false) : Alike next made other ↔ other.isOk = false := by
  cases made with
  | ok p => cases h
  | error e =>
    cases other with
    | ok q => simp [Alike, Except.toOption, Except.toBool]
    | error e => simp [Alike, Except.toOption, Except.toBool]

theorem not_alike (h : ∀ q, other = .ok q → shown next p ≠ shown next q) :
    ¬Alike next (.ok p) other := by
  intro halike
  cases other with
  | ok q => exact h q rfl (Option.some.inj halike)
  | error e => cases halike

theorem shown_ne_of_params (h : p.params ≠ q.params) : shown next p ≠ shown next q :=
  fun heq => h (congrArg Prod.snd heq)

theorem compare_text (relation : Sql.Relation) (e : Expr) :
    (Filter.patternOf next [.compare t.column relation e]).toList =
      Sql.numbered none next t.column.template.toList ++
        ((" " ++ relation.symbol ++ " ").toList ++ Sql.numbered none next e.template.toList) := by
  have haligned := Expr.aligned t.column_tight.isPlain
  have hjoint : Sql.isPlain (" " ++ relation.symbol ++ " ").toList := by
    cases relation with
    | _ => rfl
  have htemplate : (Predicate.and [.compare t.column relation e]).template =
      t.column.template ++ ((" " ++ relation.symbol ++ " ") ++ e.template) := by
    simp only [Predicate.template, Predicate.templates, String.intercalate_singleton,
      String.append_assoc]
  rw [column_params, List.length_nil] at haligned
  rw [Filter.patternOf, htemplate, if_neg (by simp), Sql.number_toList, String.toList_append,
    haligned.numbered_append, String.toList_append, Sql.Aligned.numbered_plain_append hjoint,
    Nat.add_zero]

theorem shown_ne_of_relation (a b : Expr) :
    shown next (.compare t.column .sameShape a) ≠ shown next (.compare t.column .eq b) := by
  intro heq
  rw [shown, shown, Prod.mk.injEq] at heq
  have hpattern := congrArg String.toList heq.1
  rw [compare_text, compare_text] at hpattern
  have hrest := List.append_cancel_left hpattern
  have hshape : (" " ++ Sql.Relation.sameShape.symbol ++ " ").toList = [' ', '~', '=', ' '] := rfl
  have hequal : (" " ++ Sql.Relation.eq.symbol ++ " ").toList = [' ', '=', ' '] := rfl
  rw [hshape, hequal] at hrest
  cases hrest

theorem isOk_map {α β : Type} (f : α → β) (work : Except Error α) :
    (f <$> work).isOk = work.isOk := by
  cases work with
  | _ => rfl

theorem isOk_ok {α : Type} (a : α) : (Except.ok a : Except Error α).isOk = true := rfl

theorem bareTest_isOk (h : value.typeTag? = some tag) (ht : tag ∈ Json.bareTags) :
    (t.bareTest value).isOk = (Datum.infer value).isOk := by
  obtain rfl | rfl | rfl | rfl := Json.mem_bareTags ht
  all_goals
    rw [bareTest, Datum.infer, h]
    exact (isOk_map _ _).trans (isOk_map _ _).symm

theorem unread_alike_iff (h : value.typeTag? = some tag) (ht : tag ∈ Json.bareTags)
    (hr : value.has "$relativeTime" = false) (hinfer : (Datum.infer value).isOk = false) :
    (equals scope t value).isOk = false ↔ t.spellsAlike value := by
  rw [equals_tagged h hr, spellsAlike, hinfer, explicitOperand]
  cases t.isDotted with
  | true =>
    rw [Datum.infer, h] at hinfer
    obtain rfl | rfl | rfl | rfl := Json.mem_bareTags ht
    · simpa [h, isOk_map] using hinfer
    · simpa [h, isOk_map] using hinfer
    · simp [h, isOk_ok]
    · simp [h, isOk_ok]
  | false =>
    cases t.isArray with
    | true => simp [isOk_ok]
    | false =>
      cases t.isPointer with
      | true => simp [isOk_map]
      | false => simp [isOk_map, hinfer]

theorem spellsAlike_of_infer {d : Datum} (hinfer : Datum.infer value = .ok d) :
    t.spellsAlike value = t.readsAlike value := by
  rw [spellsAlike, hinfer, isOk_ok, if_pos rfl]

theorem pointer_alike_iff (h : value.typeTag? = some "Pointer")
    (hr : value.has "$relativeTime" = false) {d : Datum} (hinfer : Datum.infer value = .ok d) :
    Alike next (t.bareTest value) (equals scope t value) ↔ t.spellsAlike value := by
  rw [spellsAlike_of_infer hinfer, readsAlike, h]
  rw [Datum.infer, h] at hinfer
  obtain ⟨id, hid, rfl⟩ := map_eq_ok.1 hinfer
  have hoperand : t.explicitOperand value = .ok (.text id) := by
    rw [explicitOperand, h, Datum.infer, h, hid]
    cases t.isDotted with
    | true => rfl
    | false =>
      cases t.isPointer with
      | _ => rfl
  rw [bareTest, h, hid, equals_tagged h hr, hoperand]
  cases t.isArray with
  | false => simp [Alike, Expr.text]
  | true =>
    cases t.isDotted with
    | false => simp [Alike]
    | true =>
      refine iff_of_false (not_alike fun q hq => ?_) (by simp)
      cases hq
      exact shown_ne_of_params (by simp [arrayTest_params, compare_params, Expr.params])

theorem date_alike_iff (h : value.typeTag? = some "Date")
    (hr : value.has "$relativeTime" = false) {d : Datum} (hinfer : Datum.infer value = .ok d) :
    Alike next (t.bareTest value) (equals scope t value) ↔ t.spellsAlike value := by
  rw [spellsAlike_of_infer hinfer, readsAlike, h]
  have hdate := hinfer
  rw [Datum.infer, h] at hdate
  obtain ⟨instant, hinstant, rfl⟩ := map_eq_ok.1 hdate
  have hbare : t.bareTest value = .ok (.compare t.column .eq (.param (.timestamp instant))) := by
    rw [bareTest, h, hinstant]
    rfl
  rw [hbare, equals_tagged h hr, explicitOperand, h, hinfer, hinstant]
  cases t.isDotted with
  | true =>
    refine iff_of_false (not_alike fun q hq => ?_) (by simp)
    cases hq
    exact shown_ne_of_params (by simp [compare_params, Expr.params])
  | false =>
    cases t.isArray with
    | true =>
      refine iff_of_false (not_alike fun q hq => ?_) (by simp)
      cases hq
      exact shown_ne_of_params (by simp [arrayTest_params, compare_params, Expr.params])
    | false =>
      cases t.isPointer with
      | true =>
        refine iff_of_false (not_alike fun q hq => ?_) (by simp)
        obtain ⟨_, hid, rfl⟩ := map_eq_ok.1 hq
        obtain ⟨id, -, rfl⟩ := map_eq_ok.1 hid
        exact shown_ne_of_params (by simp [compare_params, Expr.params])
      | false => simp [Alike]

theorem shape_not_alike (h : value.typeTag? = some tag) (hr : value.has "$relativeTime" = false)
    {e : Expr} (he : e.params ≠ [.json (.arr [value])]) :
    ¬Alike next (.ok (.compare t.column .sameShape e)) (equals scope t value) := by
  refine not_alike fun q hq => ?_
  rw [equals_tagged h hr] at hq
  split at hq
  · cases hq
    refine shown_ne_of_params ?_
    rwa [arrayTest_params, compare_params]
  · obtain ⟨d, -, rfl⟩ := map_eq_ok.1 hq
    exact shown_ne_of_relation _ _

theorem tagged_alike_iff (h : value.typeTag? = some tag) (ht : tag ∈ Json.bareTags)
    (hr : value.has "$relativeTime" = false) :
    Alike next (t.bareTest value) (equals scope t value) ↔ t.spellsAlike value := by
  cases hinfer : Datum.infer value with
  | error e =>
    have hunread : (Datum.infer value).isOk = false := by
      rw [hinfer]
      rfl
    exact (alike_of_error ((bareTest_isOk h ht).trans hunread)).trans
      (unread_alike_iff h ht hr hunread)
  | ok d =>
    have halike := @spellsAlike_of_infer t value d hinfer
    obtain rfl | rfl | rfl | rfl := Json.mem_bareTags ht
    · exact pointer_alike_iff h hr hinfer
    · exact date_alike_iff h hr hinfer
    · rw [Datum.infer, h] at hinfer
      obtain ⟨p, hp, -⟩ := map_eq_ok.1 hinfer
      rw [halike, readsAlike, bareTest, h, hp]
      exact iff_of_false
        (shape_not_alike h hr (by simp [Expr.point, Expr.params])) Bool.false_ne_true
    · rw [Datum.infer, h] at hinfer
      obtain ⟨ring, hring, -⟩ := map_eq_ok.1 hinfer
      rw [halike, readsAlike, bareTest, h, hring]
      exact iff_of_false
        (shape_not_alike h hr (by simp [Expr.polygon, Expr.text, Expr.params])) Bool.false_ne_true

end Target

namespace Query

variable (scope : Scope) {name : String} {value : Json}

def written (result : Except Error (Filter × List Datum)) : Option (String × List Datum) :=
  result.toOption.map fun made => (made.1.pattern, made.2)

def explicitly (name : String) (value : Json) : Json := .obj [(name, .obj [("$eq", value)])]

theorem written_single (hn : Clause.IsFieldName name) {work : Except Error Predicate}
    (hw : (do (scope.target name).clause scope (← Condition.ofJson value)) =
      (fun p => [p]) <$> work) (first : Nat) :
    written (compile scope (.obj [(name, value)]) first) =
      work.toOption.map (Target.shown (max first 1)) := by
  rw [compile_single scope hn, ← bind_assoc, hw]
  cases work with
  | error e => rfl
  | ok p =>
    have hparams : Predicate.paramsAll [p] = p.params := List.append_nil _
    change some (_, Predicate.paramsAll [p]) = some (_, p.params)
    rw [hparams]

theorem written_explicitly (hn : Clause.IsFieldName name) {work : Except Error Predicate}
    (hw : (scope.target name).clause scope (.operators [.eq value]) = (fun p => [p]) <$> work)
    (first : Nat) : written (compile scope (explicitly name value) first) =
      work.toOption.map (Target.shown (max first 1)) := by
  have hread : Condition.ofJson (.obj [("$eq", value)]) = .ok (.operators [.eq value]) := rfl
  refine written_single scope hn ?_ first
  rw [hread]
  exact hw

theorem null_alike (hn : Clause.IsFieldName name) (first : Nat) :
    written (compile scope (.obj [(name, .null)]) first) =
      written (compile scope (explicitly name .null) first) := by
  have hbare : (do (scope.target name).clause scope (← Condition.ofJson .null)) =
      (fun p => [p]) <$> .ok (.isNull (scope.target name).column) := rfl
  have hexplicit : (scope.target name).clause scope (.operators [.eq .null]) =
      (fun p => [p]) <$> .ok (.isNull (scope.target name).column) :=
    Target.clause_single (.ok _) (by simp [Target.skips]) rfl
  rw [written_single scope hn hbare, written_explicitly scope hn hexplicit]

theorem scalar_alike (hn : Clause.IsFieldName name) (v : Scalar) (first : Nat) :
    written (compile scope (.obj [(name, v.toJson)]) first) =
      written (compile scope (explicitly name v.toJson) first) := by
  obtain ⟨hnull, hread⟩ :
      v.toJson.isNull = false ∧ Condition.ofJson v.toJson = .ok (.scalar v) := by
    cases v with
    | _ => exact ⟨rfl, rfl⟩
  have hclause : (scope.target name).clause scope (.scalar v) =
      (fun p => [p]) <$> Target.equals scope (scope.target name) v.toJson := by
    refine Target.clause_single _ rfl ?_
    rw [Target.conditions]
    cases Target.equals scope (scope.target name) v.toJson with
    | _ => rfl
  have hbare : (do (scope.target name).clause scope (← Condition.ofJson v.toJson)) =
      (fun p => [p]) <$> Target.equals scope (scope.target name) v.toJson := by
    rw [hread]
    exact hclause
  rw [written_single scope hn hbare, written_explicitly scope hn (Target.clause_explicit hnull)]

/-- Null and a scalar give one pattern with the same parameters on their own and
under `$eq`, or fail both ways, whatever the field is. A tagged value does so just
where it is read the same way by its tag and by the kind of the field. -/
theorem compile_spells_alike_iff (hv : value.IsBare) (first : Nat) :
    written (compile scope (.obj [(name, value)]) first) =
        written (compile scope (explicitly name value) first) ↔
      (Clause.IsFieldName name → (scope.target name).spellsAlike value) := by
  by_cases hn : Clause.IsFieldName name
  · rw [forall_prop_of_true hn]
    cases hv with
    | null => exact iff_of_true (null_alike scope hn first) rfl
    | scalar v =>
      refine iff_of_true (scalar_alike scope hn v first) ?_
      cases v with
      | _ => rfl
    | tagged h ht hr =>
      have hnull : value.isNull = false := by
        obtain ⟨members, rfl⟩ := Json.obj_of_typeTag? h
        rfl
      rw [written_single scope hn (Target.clause_bareTest h ht),
        written_explicitly scope hn (Target.clause_explicit hnull)]
      exact Target.tagged_alike_iff h ht hr
  · obtain ⟨e, hrefused⟩ := compile_misnamed scope hn
    rw [hrefused value hv.arr?_eq_none first, explicitly, hrefused _ rfl first]
    exact iff_of_true rfl fun h => absurd h hn

/-- A date is read alike by its tag and in a column of dates. -/
theorem born_spelled_alike :
    let scope := Scope.ofSchema { className := "Player", fields := [("born", .date)] } ⟨0, 0⟩
    let value : Json := .obj [("__type", .str "Date"), ("iso", .str "2020-01-01T00:00:00.000Z")]
    (value.IsBare ∧ Clause.IsFieldName "born" ∧ (scope.target "born").spellsAlike value) ∧
    written (compile scope (.obj [("born", value)]) 1) =
      some ("\"born\" = $1", [.timestamp ⟨1577836800, 0⟩]) ∧
    written (compile scope (explicitly "born" value) 1) =
      some ("\"born\" = $1", [.timestamp ⟨1577836800, 0⟩]) := by
  intro scope value
  have hn : Clause.IsFieldName "born" := by decide +kernel
  have hv : value.IsBare := .tagged rfl (by decide) rfl
  have halike : (scope.target "born").spellsAlike value := by decide +kernel
  have hcolumn : (scope.target "born").column = .column "born" :=
    Target.column_undotted (by decide) _
  have htag : value.typeTag? = some "Date" := rfl
  have hdate : Timestamp.ofJson value = .ok ⟨1577836800, 0⟩ := rfl
  have hbare : written (compile scope (.obj [("born", value)]) 1) =
      some ("\"born\" = $1", [.timestamp ⟨1577836800, 0⟩]) := by
    have htest : (scope.target "born").bareTest value =
        .ok (.compare (.column "born") .eq (.param (.timestamp ⟨1577836800, 0⟩))) := by
      rw [Target.bareTest, htag, hdate, hcolumn]
      rfl
    rw [written_single scope hn (Target.clause_bareTest htag (by decide)), htest]
    rfl
  refine ⟨⟨hv, hn, halike⟩, hbare, ?_⟩
  rw [← (compile_spells_alike_iff scope hv 1).2 fun _ => halike, hbare]

/-- A point is compared as a shape on its own, and as a value under `$eq`. -/
theorem place_spelled_differently :
    let scope := Scope.ofSchema { className := "Shop", fields := [("place", .geoPoint)] } ⟨0, 0⟩
    let value : Json := .obj
      [("__type", .str "GeoPoint"), ("latitude", .int 52), ("longitude", .int 13)]
    written (compile scope (.obj [("place", value)]) 1) =
      some ("\"place\" ~= POINT($1, $2)", [.float (.ofInt 13), .float (.ofInt 52)]) ∧
    written (compile scope (explicitly "place" value) 1) =
      some ("\"place\" = $1", [.point ⟨.ofInt 13, .ofInt 52⟩]) := by
  intro scope value
  have hn : Clause.IsFieldName "place" := by decide +kernel
  have hcolumn : (scope.target "place").column = .column "place" :=
    Target.column_undotted (by decide) _
  have htag : value.typeTag? = some "GeoPoint" := rfl
  have hpoint : GeoPoint.ofJson value = .ok ⟨.ofInt 52, .ofInt 13⟩ := by
    have hlatitude : GeoPoint.within 90 (.ofInt 52) := by decide +kernel
    have hlongitude : GeoPoint.within 180 (.ofInt 13) := by decide +kernel
    simp [value, GeoPoint.ofJson, Json.typeTag?, Json.getStr?, Json.get?, Entries.find?, Json.str?,
      Json.toDouble?, Json.num?, Number.toDouble, GeoPoint.make, hlatitude, hlongitude]
  constructor
  · have htest : (scope.target "place").bareTest value =
        .ok (.compare (.column "place") .sameShape (.point ⟨.ofInt 13, .ofInt 52⟩)) := by
      rw [Target.bareTest, htag, hpoint, hcolumn]
      rfl
    rw [written_single scope hn (Target.clause_bareTest htag (by decide)), htest]
    rfl
  · have hoperand : (scope.target "place").explicitOperand value =
        .ok (.point ⟨.ofInt 13, .ofInt 52⟩) := by
      have hdotted : (scope.target "place").isDotted = false := by decide
      have hpointer : (scope.target "place").isPointer = false := rfl
      rw [Target.explicitOperand, hdotted, hpointer, Datum.infer, htag, hpoint]
      rfl
    have harray : (scope.target "place").isArray = false := rfl
    rw [written_explicitly scope hn (Target.clause_explicit rfl), Target.equals_tagged htag rfl,
      harray, hoperand, hcolumn, Bool.and_false]
    rfl

end Query
end DocSql
