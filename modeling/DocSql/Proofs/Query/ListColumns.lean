import DocSql.Proofs.Query.Answers
import DocSql.Proofs.Query.Inequality

/-!
Asking for a scalar in a column of lists and excluding it. A list test takes a
missing list for an empty one, so exactly one of the two selects a row. Null is
asked for as a missing list and excluded as an item, which are not opposites.
-/
namespace DocSql

open Sql (Expr Filter Predicate Selects Truth Valuation)

namespace Json

def sameScalar : Json → Json → Bool
  | null, null => true
  | bool a, bool b => a == b
  | num m, num n => m.toDouble.equal n.toDouble
  | str s, str t => s == t
  | _, _ => false

end Json

namespace Sql

variable {V : Type}

/-- Values hold lists, and `array_contains` says whether two lists have an item in
common, where a missing list is empty. Only null is the same as null. -/
structure Valuation.ReadsLists (M : Valuation V) (elements : V → List Json)
    (same : Json → Json → Bool) : Prop where
  listed : ∀ items, elements (M.cast "jsonb" (M.datum (.json (.arr items)))) = items
  contains : ∀ list values,
    (M.call HelperFunction.arrayContains.name [list, some values]).map M.isTrue =
      some ((list.elim [] elements).any fun item => (elements values).any (same item))
  null : ∀ item, same item .null = item.isNull

/-- A row of lists and scalars, in which `array_contains` has its meaning. No
relation and no other test is taken to hold there. -/
def Valuation.ofJsonRow (row : String → Option Json) : Valuation Json where
  column := row
  path _ := none
  asText := some
  constant := .str
  datum := Datum.toJson
  array _ := .arr []
  cast _ value := value
  call f args :=
    if f ∈ strictFunctions then
      if args.any Option.isNone then none else some (args.head?.join.getD .null)
    else match args with
    | [list, some values] => some (.bool (f == HelperFunction.arrayContains.name &&
        ((list.bind Json.arr?).getD []).any fun item =>
          ((values.arr?).getD []).any item.sameScalar))
    | _ => some (.bool false)
  isTrue
    | .bool b => b
    | _ => false
  relate _ _ _ := false
  call_strict f hf args := by simp [hf]
  call_listTest f hf list values := by
    have hother : f ∉ strictFunctions := by
      intro hstrict
      revert f
      decide
    simp [hother]

theorem Valuation.ofJsonRow_readsLists (row : String → Option Json) :
    (ofJsonRow row).ReadsLists (fun value => (value.arr?).getD []) Json.sameScalar where
  listed _ := rfl
  contains list values := by
    cases list with
    | none => rfl
    | some value => rfl
  null item := by
    cases item with
    | _ => rfl

end Sql

namespace Target

variable {V : Type} {M : Valuation V} {elements : V → List Json} {same : Json → Json → Bool}
variable {scope : Scope} {t : Target} {value : Json}

def list? (t : Target) (M : Valuation V) (elements : V → List Json) : Option (List Json) :=
  (t.arrayColumn.value M).map elements

theorem truth_contains (hM : M.ReadsLists elements same) (value : Json) :
    (t.arrayTest "array_contains" [value]).truth M =
      .ofBool (((t.list? M elements).getD []).any (same · value)) := by
  have hfound := hM.contains (t.arrayColumn.value M)
    (M.cast "jsonb" (M.datum (.json (.arr [value]))))
  obtain ⟨x, hx, htrue⟩ := Option.map_eq_some_iff.1 hfound
  have hvalue : (Expr.apply₂ "array_contains" t.arrayColumn (.json (.arr [value]))).value M =
      some x := hx
  rw [arrayTest, Predicate.truth, hvalue, Option.map_some, Option.getD_some, htrue, hM.listed]
  simp only [List.any_cons, List.any_nil, Bool.or_false, list?]
  cases t.arrayColumn.value M with
  | none => rfl
  | some list => rfl

theorem list?_eq_none (hd : t.isDotted = false) :
    t.list? M elements = none ↔ M.column t.name = none := by
  have hcolumn : t.column.value M = M.column t.name := by
    rw [column, hd]
    rfl
  rw [list?, Option.map_eq_none_iff, arrayColumn_missing, ← column_missing, hcolumn]

variable {name : String} {type : FieldType}

def findsScalar (t : Target) (value : Json) : Predicate :=
  if value.isNull then .isNull t.column else t.arrayTest "array_contains" [value]

theorem clause_listed (hd : Sql.isDotted name = false) (ha : type.isArray)
    (hv : value = .null ∨ ∃ v : Scalar, value = v.toJson) :
    (do clause scope ⟨name, some type⟩ (← Condition.ofJson value)) =
      .ok [findsScalar ⟨name, some type⟩ value] := by
  have hdotted : isDotted ⟨name, some type⟩ = false := hd
  have harray : isArray ⟨name, some type⟩ := ha
  obtain rfl | ⟨v, rfl⟩ := hv
  · rfl
  · have hequals : equals scope ⟨name, some type⟩ v.toJson =
        .ok (arrayTest ⟨name, some type⟩ "array_contains" [v.toJson]) := by
      unfold equals
      rw [hdotted, harray]
      cases v with
      | _ => rfl
    have hconditions : conditions scope ⟨name, some type⟩ (.scalar v) =
        .ok [arrayTest ⟨name, some type⟩ "array_contains" [v.toJson]] := by
      rw [conditions, hequals]
      rfl
    have hclause := clause_single (.ok _) rfl hconditions
    cases v with
    | _ => exact hclause

theorem clause_unlisted (ha : type.isArray) (hr : value.has "$relativeTime" = false) :
    clause scope ⟨name, some type⟩ (.operators [.ne value]) =
      .ok [.not (arrayTest ⟨name, some type⟩ "array_contains" [value])] := by
  have harray : isArray ⟨name, some type⟩ := ha
  rw [clause_excluding, differs, rejectRelativeTime, hr, harray]
  rfl

theorem findsScalar_selects (hM : M.ReadsLists elements same) (value : Json) :
    (t.findsScalar value).truth M = .yes ↔
      if value.isNull then t.list? M elements = none
      else ∃ list ∈ t.list? M elements, list.any (same · value) := by
  unfold findsScalar
  cases value.isNull with
  | true =>
    have hmissing : t.column.value M = none ↔ t.arrayColumn.value M = none :=
      column_missing.trans (arrayColumn_missing M).symm
    rw [if_pos rfl, if_pos rfl, Predicate.truth, Truth.ofBool_eq_yes, Option.isNone_iff_eq_none,
      hmissing, list?, Option.map_eq_none_iff]
  | false =>
    rw [if_neg Bool.false_ne_true, if_neg Bool.false_ne_true, truth_contains hM,
      Truth.ofBool_eq_yes]
    cases t.list? M elements with
    | none => simp
    | some list => simp

theorem unlisted_selects (hM : M.ReadsLists elements same) (value : Json) :
    (Predicate.not (t.arrayTest "array_contains" [value])).truth M = .yes ↔
      ∀ list ∈ t.list? M elements, list.any (same · value) = false := by
  rw [Predicate.truth, Truth.not_eq_yes, truth_contains hM, Truth.ofBool_eq_no]
  cases t.list? M elements with
  | none => simp
  | some list => simp

end Target

theorem Sql.Valuation.ReadsLists.xor_iff {V : Type} {M : Valuation V} {elements : V → List Json}
    {same : Json → Json → Bool} (hM : M.ReadsLists elements same) (list? : Option (List Json))
    (value : Json) :
    Xor (if value.isNull then list? = none else ∃ list ∈ list?, list.any (same · value))
        (∀ list ∈ list?, list.any (same · value) = false) ↔
      value.isNull = false ∨ ∃ list ∈ list?, list.any Json.isNull = false := by
  cases hn : value.isNull with
  | true =>
    have hnull : (same · value) = Json.isNull := by
      cases value with
      | null => exact funext hM.null
      | bool _ | num _ | str _ | arr _ | obj _ => cases hn
    rw [hnull]
    cases list? with
    | none => simp [Xor]
    | some list => simp [Xor]
  | false =>
    cases list? with
    | none => simp [Xor]
    | some list =>
      simp only [Option.mem_def, Option.some.injEq, exists_eq_left', forall_eq', Bool.false_eq_true,
        if_false, true_or, iff_true]
      cases list.any (same · value) with
      | _ => simp [Xor]

namespace Query

variable (scope : Scope) {name : String} {type : FieldType} {value : Json}

/-- In a column of lists a scalar is found by its query in the rows whose list has
it, and null where there is no list; the query that excludes it selects the rows
whose list does not have it, and those without a list. So exactly one of the two
selects a row, unless null is asked for and there is no list, when both do, or a
list that has null, when neither does. -/
theorem list_excluding_selects (hd : Sql.isDotted name = false)
    (hf : scope.schema.field? name = some type) (ha : type.isArray)
    (hv : value = .null ∨ ∃ v : Scalar, value = v.toJson) (first : Nat) :
    let asked := compile scope (.obj [(name, value)]) first
    let excluded := compile scope (excluding name value) first
    (¬Clause.IsFieldName name → ∃ e, asked = .error e ∧ excluded = .error e) ∧
    (Clause.IsFieldName name → ∃ made others, asked = .ok made ∧ excluded = .ok others ∧
      ∀ (V : Type) (M : Valuation V) (v : String → Truth) (elements : V → List Json)
        (same : Json → Json → Bool), M.ReadsLists elements same →
        Judged scope (.obj [(name, value)]) first M v →
        Judged scope (excluding name value) first M v →
        let list? := (scope.target name).list? M elements
        let has := fun list : List Json => list.any (same · value)
        (list? = none ↔ M.column name = none) ∧
        (Selects v made.1.pattern ↔
          if value.isNull then list? = none else ∃ list ∈ list?, has list) ∧
        (Selects v others.1.pattern ↔ ∀ list ∈ list?, has list = false) ∧
        (Xor (Selects v made.1.pattern) (Selects v others.1.pattern) ↔
          value.isNull = false ∨ ∃ list ∈ list?, list.any Json.isNull = false)) := by
  intro asked excluded
  obtain ⟨hlist, hr⟩ : value.arr? = none ∧ value.has "$relativeTime" = false := by
    obtain rfl | ⟨v, rfl⟩ := hv
    · exact ⟨rfl, rfl⟩
    · cases v with
      | _ => exact ⟨rfl, rfl⟩
  refine ⟨fun hn => ?_, fun hn => ?_⟩
  · obtain ⟨e, hrefused⟩ := compile_misnamed scope hn
    exact ⟨e, hrefused value hlist first, hrefused _ rfl first⟩
  · have htarget : scope.target name = ⟨name, some type⟩ := congrArg (Target.mk name) hf
    have hskips := skips_declared scope hf
    have hlisted : (do (scope.target name).clause scope (← Condition.ofJson value)) =
        .ok [(scope.target name).findsScalar value] := by
      rw [htarget]
      exact Target.clause_listed hd ha hv
    have hunlisted : (scope.target name).clause scope (.operators [.ne value]) =
        .ok [.not ((scope.target name).arrayTest "array_contains" [value])] := by
      rw [htarget]
      exact Target.clause_unlisted ha hr
    obtain ⟨condition, hcondition, hclause⟩ := bind_eq_ok.1 hlisted
    obtain ⟨made, hmade, hfound⟩ := compile_test scope hn hcondition (hskips _)
      (Target.conditions_of_clause (hskips _) hclause) first
    have hexcluded : Condition.ofJson (.obj [("$ne", value)]) = .ok (.operators [.ne value]) := rfl
    obtain ⟨others, hothers, hleft⟩ := compile_test scope hn hexcluded (hskips _)
      (Target.conditions_of_clause (hskips _) hunlisted) first
    refine ⟨made, others, hmade, hothers, fun V M v elements same hM hj hj' => ?_⟩
    dsimp only
    rw [Selects, Selects, hfound V M v hj, hleft V M v hj', Target.findsScalar_selects hM,
      Target.unlisted_selects hM]
    exact ⟨Target.list?_eq_none hd, .rfl, .rfl, hM.xor_iff _ _⟩

def tagged : Scope :=
  .ofSchema { className := "Post", fields := [("tags", .array)] } ⟨0, 0⟩

def taggedRow (tags? : Option Json) : Valuation Json :=
  .ofJsonRow fun name => if name = "tags" then tags? else none

def taggedTruth (missing found : Bool) (text : String) : Truth :=
  .ofBool (if text = "\"tags\" IS NULL" then missing else found)

/-- A tag is in the list of a row that has it, and not missing there. -/
theorem tag_found_once :
    let M := taggedRow (some (.arr [.str "lean", .null]))
    let v := taggedTruth false true
    (Sql.isDotted "tags" = false ∧ tagged.schema.field? "tags" = some .array ∧
      FieldType.array.isArray ∧ Clause.IsFieldName "tags" ∧
      M.ReadsLists (fun value => (value.arr?).getD []) Json.sameScalar ∧
      Judged tagged (.obj [("tags", .str "lean")]) 1 M v ∧
      Judged tagged (excluding "tags" (.str "lean")) 1 M v) ∧
    ∃ made others, compile tagged (.obj [("tags", .str "lean")]) 1 = .ok made ∧
      compile tagged (excluding "tags" (.str "lean")) 1 = .ok others ∧
      Selects v made.1.pattern ∧ ¬Selects v others.1.pattern := by
  intro M v
  have hn : Clause.IsFieldName "tags" := by decide +kernel
  have hM : M.ReadsLists _ _ := Valuation.ofJsonRow_readsLists _
  have hj : Judged tagged (.obj [("tags", .str "lean")]) 1 M v := by
    refine judged_test tagged hn rfl rfl rfl ?_
    change (_ : Truth) = _
    decide +kernel
  have hj' : Judged tagged (excluding "tags" (.str "lean")) 1 M v := by
    refine judged_test tagged hn rfl rfl rfl ?_
    change (_ : Truth) = _
    decide +kernel
  refine ⟨⟨by decide, rfl, rfl, hn, hM, hj, hj'⟩, ?_⟩
  obtain ⟨made, others, hmade, hothers, hrow⟩ :=
    (list_excluding_selects tagged (by decide) rfl rfl (.inr ⟨.string "lean", rfl⟩) 1).2 hn
  obtain ⟨-, hfound, hleft, -⟩ := hrow Json M v _ _ hM hj hj'
  have hlist : (tagged.target "tags").list? M (fun value => (value.arr?).getD []) =
      some [.str "lean", .null] := rfl
  refine ⟨made, others, hmade, hothers, hfound.2 ⟨_, hlist, rfl⟩, fun h => ?_⟩
  cases hleft.1 h _ hlist

/-- A row without a list is selected both by the query for null and by the one
that excludes null, and a row whose list has null by neither. -/
theorem null_against_lists :
    compile tagged (.obj [("tags", .null)]) 1 = .ok (⟨"\"tags\" IS NULL", []⟩, []) ∧
    compile tagged (excluding "tags" .null) 1 =
      .ok (⟨"NOT array_contains(\"tags\", $1::jsonb)", []⟩, [.json (.arr [.null])]) ∧
    (let M := taggedRow none
      let v := taggedTruth true false
      Judged tagged (.obj [("tags", .null)]) 1 M v ∧ Judged tagged (excluding "tags" .null) 1 M v ∧
        Selects v "\"tags\" IS NULL" ∧ Selects v "NOT array_contains(\"tags\", $1::jsonb)") ∧
    (let M := taggedRow (some (.arr [.null]))
      let v := taggedTruth false true
      Judged tagged (.obj [("tags", .null)]) 1 M v ∧ Judged tagged (excluding "tags" .null) 1 M v ∧
        ¬Selects v "\"tags\" IS NULL" ∧
        ¬Selects v "NOT array_contains(\"tags\", $1::jsonb)") := by
  have hn : Clause.IsFieldName "tags" := by decide +kernel
  have hasked : compile tagged (.obj [("tags", .null)]) 1 =
      .ok (⟨"\"tags\" IS NULL", []⟩, []) := by
    rw [compile_single _ hn]
    rfl
  have hexcluded : compile tagged (excluding "tags" .null) 1 =
      .ok (⟨"NOT array_contains(\"tags\", $1::jsonb)", []⟩, [.json (.arr [.null])]) := by
    rw [excluding, compile_single _ hn]
    rfl
  refine ⟨hasked, hexcluded, ⟨?_, ?_, ?_, ?_⟩, ?_, ?_, ?_, ?_⟩
  · refine judged_test tagged hn rfl rfl rfl ?_
    change (_ : Truth) = _
    decide +kernel
  · refine judged_test tagged hn rfl rfl rfl ?_
    change (_ : Truth) = _
    decide +kernel
  · rw [Selects]
    decide +kernel
  · rw [Selects]
    decide +kernel
  · refine judged_test tagged hn rfl rfl rfl ?_
    change (_ : Truth) = _
    decide +kernel
  · refine judged_test tagged hn rfl rfl rfl ?_
    change (_ : Truth) = _
    decide +kernel
  · rw [Selects]
    decide +kernel
  · rw [Selects]
    decide +kernel

end Query
end DocSql
