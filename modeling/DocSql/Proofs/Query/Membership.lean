import DocSql.Proofs.Query.Evaluation
import DocSql.Proofs.Storage.Values

/-!
`$in` and `$nin` on a column of scalars. A value that is there is found by the
one just where it is listed and by the other just where it is not; a missing
value counts as null, but for lists that do not list null.
-/
namespace DocSql

open Sql (Expr Filter Predicate Selects Truth Valuation)

namespace FieldType

def holds : FieldType → Datum → Bool
  | _, .null => true
  | string, .text _ | number, .float _ | boolean, .bool _ => true
  | _, _ => false

def takes : FieldType → Json → Bool
  | _, .null => true
  | string, .str _ | number, .num _ | boolean, .bool _ => true
  | _, _ => false

end FieldType

namespace Datum

def isJson : Datum → Json → Bool
  | null, .null => true
  | text s, .str t => s == t
  | float x, .num n => x.equal n.toDouble
  | bool a, .bool b => a == b
  | _, _ => false

def isAmong (x : Datum) (items : List Json) : Bool := items.any x.isJson

variable {x : Datum} {items : List Json}

theorem isJson_null (x : Datum) : x.isJson .null = x.isNull := by
  cases x with
  | _ => rfl

theorem isJson_of_isNull {item : Json} (hv : x.isNull) (hn : item.isNull = false) :
    x.isJson item = false := by
  cases x with
  | null =>
    cases item with
    | null => cases hn
    | _ => rfl
  | _ => cases hv

theorem isAmong_of_isNull (hv : x.isNull) : x.isAmong items = items.any Json.isNull := by
  cases x with
  | null =>
    refine congrArg items.any (funext fun item => ?_)
    cases item with
    | _ => rfl
  | _ => cases hv

/-- What a list leaves is what it does not find, unless it leaves open what is missing. -/
theorem left_iff_not_found (x : Datum) (items : List Json) :
    ((items = [] ∨ x.isNull = false ∧ x.isAmong items = false) ↔
        ¬(x.isAmong items ∨ items = [] ∧ x.isNull)) ↔
      x.isNull = false ∨ items.any Json.isNull := by
  cases hv : x.isNull with
  | true =>
    rw [isAmong_of_isNull hv]
    cases items with
    | nil => simp
    | cons item rest => cases (item :: rest).any Json.isNull <;> simp
  | false =>
    cases items with
    | nil => simp [isAmong]
    | cons item rest => simp

theorem isAmong_eq (x : Datum) (items : List Json) :
    x.isAmong items = (x.isAmong (items.filter (!·.isNull)) || items.any Json.isNull && x.isNull) := by
  induction items with
  | nil => rfl
  | cons item rest ih =>
    unfold isAmong at ih ⊢
    rw [List.any_cons, ih, List.any_cons, List.filter_cons]
    cases item with
    | null =>
      rw [isJson_null]
      cases x.isNull <;> simp [Json.isNull]
    | bool _ | num _ | str _ | arr _ | obj _ => simp [Json.isNull, Bool.or_assoc]

end Datum

namespace Target

variable {name : String} {type : FieldType} {items : List Json}

theorem operand_scalar (hs : type.isScalar) {item : Json} (ht : type.takes item) :
    operand ⟨name, some type⟩ item = .ok (Datum.ofJson item) := by
  cases type with
  | string | number | boolean => cases item <;> first | rfl | cases ht
  | _ => cases hs

theorem operands_scalar (hs : type.isScalar) (ht : ∀ item ∈ items, type.takes item) :
    items.mapM (operand ⟨name, some type⟩) = .ok (items.map Datum.ofJson) := by
  induction items with
  | nil => rfl
  | cons item rest ih =>
    rw [List.forall_mem_cons] at ht
    rw [List.mapM_cons, operand_scalar hs ht.1, ih ht.2]
    rfl

end Target

namespace Datum

variable {type : FieldType} {x : Datum} {item : Json}

theorem equal?_ofNumber (x : Double) (n : Number) :
    equal? (.float x) (ofNumber n) = some (x.equal n.toDouble) := by
  cases n with
  | float y => rfl
  | int i =>
    cases h : Number.fitsInt64 i with
    | _ => simp [ofNumber, Number.toInt64?, h, equal?, Number.toDouble]

theorem ofJson_isNull (ht : type.takes item) : (ofJson item).isNull = item.isNull := by
  cases item with
  | num n =>
    unfold ofJson ofNumber
    dsimp only
    split
    · rfl
    · rfl
  | _ => rfl

theorem equal?_ofJson (hx : type.holds x) (ht : type.takes item) (hv : x.isNull = false)
    (hn : item.isNull = false) : equal? x (ofJson item) = some (x.isJson item) := by
  cases item with
  | null => cases hn
  | str t =>
    cases type with
    | string =>
      cases x with
      | text s => rfl
      | null => cases hv
      | _ => cases hx
    | _ => cases ht
  | num n =>
    cases type with
    | number =>
      cases x with
      | float y => exact equal?_ofNumber y n
      | null => cases hv
      | _ => cases hx
    | _ => cases ht
  | bool b =>
    cases type with
    | boolean =>
      cases x with
      | bool a => rfl
      | null => cases hv
      | _ => cases hx
    | _ => cases ht
  | arr _ | obj _ => cases type <;> cases ht

end Datum

namespace Sql

variable {V : Type} {M : Valuation V} {type : FieldType} {x : Datum} {items : List Json}
  {column : Expr}

theorem Valuation.ComparesScalars.compare_item (hM : M.ComparesScalars) (hx : type.holds x)
    {item : Json} (ht : type.takes item) (hn : item.isNull = false) :
    M.compare .eq (M.datum? x) (M.datum? (Datum.ofJson item)) =
      if x.isNull then .unknown else .ofBool (x.isJson item) := by
  unfold Valuation.datum?
  rw [Datum.ofJson_isNull ht, hn]
  cases hv : x.isNull with
  | true => rfl
  | false =>
    rw [← hM _ _ _ (Datum.equal?_ofJson hx ht hv hn)]
    rfl

namespace Predicate

theorem isIn_selects (hM : M.ComparesScalars) (hx : type.holds x)
    (hcolumn : column.value M = M.datum? x)
    (ht : ∀ item ∈ items, type.takes item ∧ item.isNull = false) :
    (isIn column (items.map Datum.ofJson)).truth M = .yes ↔ x.isAmong items := by
  have hitem (item : Json) (hi : item ∈ items) :
      M.compare .eq (M.datum? x) (M.datum? (Datum.ofJson item)) = .yes ↔ x.isJson item := by
    obtain ⟨htakes, hn⟩ := ht item hi
    rw [hM.compare_item hx htakes hn]
    cases hv : x.isNull with
    | true => simp [Datum.isJson_of_isNull hv hn]
    | false => simp
  simp only [truth, hcolumn, List.map_map, Truth.any_eq_yes, List.mem_map, Function.comp_apply,
    Datum.isAmong, List.any_eq_true]
  exact exists_congr fun item => and_congr_right (hitem item)

theorem notIn_selects (hM : M.ComparesScalars) (hx : type.holds x)
    (hcolumn : column.value M = M.datum? x) (hne : items ≠ [])
    (ht : ∀ item ∈ items, type.takes item ∧ item.isNull = false) :
    (notIn column (items.map Datum.ofJson)).truth M = .yes ↔
      x.isNull = false ∧ x.isAmong items = false := by
  have hitem (item : Json) (hi : item ∈ items) :
      M.compare .eq (M.datum? x) (M.datum? (Datum.ofJson item)) = .no ↔
        x.isNull = false ∧ x.isJson item = false := by
    rw [hM.compare_item hx (ht item hi).1 (ht item hi).2]
    cases x.isNull <;> simp
  simp only [truth, Truth.not_eq_yes, Truth.any_eq_no, hcolumn, List.map_map, List.forall_mem_map,
    Function.comp_apply, Datum.isAmong, List.any_eq_false, Bool.not_eq_true]
  constructor
  · intro hno
    obtain ⟨first, hfirst⟩ := List.exists_mem_of_ne_nil items hne
    exact ⟨((hitem first hfirst).1 (hno first hfirst)).1,
      fun item hi => ((hitem item hi).1 (hno item hi)).2⟩
  · rintro ⟨hv, hnone⟩ item hi
    exact (hitem item hi).2 ⟨hv, hnone item hi⟩

theorem isNull_selects (hcolumn : column.value M = M.datum? x) :
    (isNull column).truth M = .yes ↔ x.isNull := by
  rw [truth, hcolumn, Truth.ofBool_eq_yes, Valuation.datum?]
  cases x.isNull <;> simp

theorem isNotNull_selects (hcolumn : column.value M = M.datum? x) :
    (isNotNull column).truth M = .yes ↔ x.isNull = false := by
  rw [truth, hcolumn, Truth.ofBool_eq_yes, Valuation.datum?]
  cases x.isNull <;> simp

theorem or_selects {p q : Predicate} :
    (paren (or [p, q])).truth M = .yes ↔ p.truth M = .yes ∨ q.truth M = .yes := by
  simp only [truth, truths, Truth.any_eq_yes, List.mem_cons, List.not_mem_nil, or_false,
    @eq_comm _ Truth.yes]

theorem and_selects {p q : Predicate} :
    (paren (and [p, q])).truth M = .yes ↔ p.truth M = .yes ∧ q.truth M = .yes := by
  simp only [truth, truths, Truth.all_eq_yes, List.forall_mem_cons, List.not_mem_nil,
    false_imp_iff, implies_true, and_true]

end Predicate
end Sql

namespace Target

variable {name : String} {type : FieldType} {items : List Json}

/-- The condition is true in the rows whose value in the column is one of these. -/
def SelectsWhere (name : String) (type : FieldType) (p : Predicate) (found : Datum → Prop) : Prop :=
  ∀ (V : Type) (M : Valuation V) (x : Datum), M.ComparesScalars → type.holds x →
    (Expr.column name).value M = M.datum? x → (p.truth M = .yes ↔ found x)

theorem any_isNull_of_filter (hne : items ≠ []) (h : items.filter (!·.isNull) = []) :
    items.any Json.isNull = true := by
  obtain ⟨first, hfirst⟩ := List.exists_mem_of_ne_nil items hne
  have hn := List.filter_eq_nil_iff.1 h first hfirst
  exact List.any_eq_true.2 ⟨first, hfirst, by simpa using hn⟩

theorem listed_scalars (ht : ∀ item ∈ items, type.takes item) :
    ∀ item ∈ items.filter (!·.isNull), type.takes item ∧ item.isNull = false := by
  intro item hi
  obtain ⟨hmem, hn⟩ := List.mem_filter.1 hi
  exact ⟨ht item hmem, by simpa using hn⟩

theorem listed_operands (hs : type.isScalar) (ht : ∀ item ∈ items, type.takes item) :
    (items.filter (!·.isNull)).mapM (operand ⟨name, some type⟩) =
      .ok ((items.filter (!·.isNull)).map Datum.ofJson) :=
  operands_scalar hs fun item hi => (listed_scalars ht item hi).1

theorem scalarMembership_chosen (hs : type.isScalar) (hd : Sql.isDotted name = false)
    (ht : ∀ item ∈ items, type.takes item) (hne : items ≠ []) :
    ∃ p, scalarMembership ⟨name, some type⟩ items false = .ok p ∧
      SelectsWhere name type p (·.isAmong items) := by
  have hlisted := listed_scalars ht
  unfold scalarMembership
  rw [listed_operands hs ht, column_undotted hd]
  dsimp only [bind, Except.bind]
  by_cases hempty : items.filter (!·.isNull) = []
  · refine ⟨.isNull (.column name), by rw [hempty]; rfl, fun V M x hM hx hcolumn => ?_⟩
    change _ ↔ x.isAmong items
    rw [Predicate.isNull_selects hcolumn, x.isAmong_eq items, hempty, any_isNull_of_filter hne hempty]
    simp [Datum.isAmong]
  rw [if_neg (by simpa using hempty)]
  cases hnull : items.any Json.isNull with
  | false =>
    refine ⟨_, rfl, fun V M x hM hx hcolumn => ?_⟩
    change _ ↔ x.isAmong items
    rw [Predicate.isIn_selects hM hx hcolumn hlisted, x.isAmong_eq items, hnull]
    simp
  | true =>
    refine ⟨_, rfl, fun V M x hM hx hcolumn => ?_⟩
    change _ ↔ x.isAmong items
    rw [Predicate.or_selects, Predicate.isNull_selects hcolumn,
      Predicate.isIn_selects hM hx hcolumn hlisted, x.isAmong_eq items, hnull]
    cases x.isNull <;> simp

theorem scalarMembership_excluded (hs : type.isScalar) (hd : Sql.isDotted name = false)
    (ht : ∀ item ∈ items, type.takes item) (hne : items ≠ []) :
    ∃ p, scalarMembership ⟨name, some type⟩ items true = .ok p ∧
      SelectsWhere name type p fun x => x.isNull = false ∧ x.isAmong items = false := by
  have hlisted := listed_scalars ht
  unfold scalarMembership
  rw [listed_operands hs ht, column_undotted hd]
  dsimp only [bind, Except.bind]
  by_cases hempty : items.filter (!·.isNull) = []
  · refine ⟨.isNotNull (.column name), by rw [hempty]; rfl, fun V M x hM hx hcolumn => ?_⟩
    change _ ↔ x.isNull = false ∧ x.isAmong items = false
    rw [Predicate.isNotNull_selects hcolumn, x.isAmong_eq items, hempty, any_isNull_of_filter hne hempty]
    simp [Datum.isAmong]
  rw [if_neg (by simpa using hempty)]
  cases hnull : items.any Json.isNull with
  | false =>
    refine ⟨_, rfl, fun V M x hM hx hcolumn => ?_⟩
    change _ ↔ x.isNull = false ∧ x.isAmong items = false
    rw [Predicate.notIn_selects hM hx hcolumn hempty hlisted, x.isAmong_eq items, hnull]
    simp
  | true =>
    refine ⟨_, rfl, fun V M x hM hx hcolumn => ?_⟩
    change _ ↔ x.isNull = false ∧ x.isAmong items = false
    rw [Predicate.and_selects, Predicate.isNotNull_selects hcolumn,
      Predicate.notIn_selects hM hx hcolumn hempty hlisted, x.isAmong_eq items, hnull]
    cases x.isNull <;> simp

theorem membership_scalar (hs : type.isScalar) (hd : Sql.isDotted name = false) (negated : Bool) :
    membership ⟨name, some type⟩ items negated =
      if (flattened items).isEmpty then
        .ok (some (if negated then .always else .isNull (.column name)))
      else some <$> scalarMembership ⟨name, some type⟩ (flattened items) negated := by
  have hundotted : isDotted ⟨name, some type⟩ = false := hd
  have htext : isTextArray ⟨name, some type⟩ = false := by
    cases type with
    | string | number | boolean => rfl
    | _ => cases hs
  have harray : isArray ⟨name, some type⟩ = false := by
    cases type with
    | string | number | boolean => rfl
    | _ => cases hs
  unfold membership
  rw [hundotted, htext, harray, column_undotted hd]
  simp only [Bool.false_eq_true, if_false, Bool.false_and]
  cases scalarMembership ⟨name, some type⟩ (flattened items) negated with
  | _ => rfl

theorem membership_chosen (hs : type.isScalar) (hd : Sql.isDotted name = false)
    (ht : ∀ item ∈ flattened items, type.takes item) :
    ∃ p, membership ⟨name, some type⟩ items false = .ok (some p) ∧
      SelectsWhere name type p fun x =>
        x.isAmong (flattened items) ∨ flattened items = [] ∧ x.isNull := by
  rw [membership_scalar hs hd]
  by_cases hempty : flattened items = []
  · rw [hempty]
    refine ⟨.isNull (.column name), rfl, fun V M x hM hx hcolumn => ?_⟩
    rw [Predicate.isNull_selects hcolumn]
    simp [Datum.isAmong]
  · obtain ⟨p, hp, hselects⟩ := scalarMembership_chosen hs hd ht hempty
    rw [if_neg (by simpa using hempty), hp]
    refine ⟨p, rfl, fun V M x hM hx hcolumn => ?_⟩
    rw [hselects V M x hM hx hcolumn]
    simp [hempty]

theorem membership_excluded (hs : type.isScalar) (hd : Sql.isDotted name = false)
    (ht : ∀ item ∈ flattened items, type.takes item) :
    ∃ p, membership ⟨name, some type⟩ items true = .ok (some p) ∧
      SelectsWhere name type p fun x =>
        flattened items = [] ∨ x.isNull = false ∧ x.isAmong (flattened items) = false := by
  rw [membership_scalar hs hd]
  by_cases hempty : flattened items = []
  · rw [hempty]
    refine ⟨.always, rfl, fun V M x hM hx hcolumn => ?_⟩
    simp [Predicate.truth]
  · obtain ⟨p, hp, hselects⟩ := scalarMembership_excluded hs hd ht hempty
    rw [if_neg (by simpa using hempty), hp]
    refine ⟨p, rfl, fun V M x hM hx hcolumn => ?_⟩
    rw [hselects V M x hM hx hcolumn]
    simp [hempty]

end Target

namespace Query

variable (scope : Scope) {name : String} {type : FieldType} {items : List Json}

def listed (name key : String) (items : List Json) : Json := .obj [(name, .obj [(key, .arr items)])]

theorem compile_listed (hn : Clause.IsFieldName name) {key : String} {op : Operator}
    (hc : Condition.ofJson (.obj [(key, .arr items)]) = .ok (.operators [op]))
    (hs : (scope.target name).skips (.operators [op]) = false) {p : Predicate}
    (hp : Target.operator scope (scope.target name) op = .ok (some p)) (first : Nat) :
    ∃ made, compile scope (listed name key items) first = .ok made ∧
      ∀ (V : Type) (M : Valuation V) (v : String → Truth),
        Judged scope (listed name key items) first M v →
        (Sql.read made.1.pattern).eval v = p.truth M :=
  compile_test scope hn hc hs ((scope.target name).conditions_single scope hp) first

/-- On a column of scalars `$in` selects a row where the value is listed, null
standing for a missing one, and an empty list selects the rows without a value.
`$nin` selects a row where there is a value that is not listed, and an empty
list selects all rows. So just one of them selects a row where it has a value
or the list has null. -/
theorem membership_selects_iff (hn : Clause.IsFieldName name) (hd : Sql.isDotted name = false)
    (hf : scope.schema.field? name = some type) (hs : type.isScalar)
    (ht : ∀ item ∈ Target.flattened items, type.takes item) (first : Nat) :
    ∃ chosen excluded,
      compile scope (listed name "$in" items) first = .ok chosen ∧
      compile scope (listed name "$nin" items) first = .ok excluded ∧
      ∀ (V : Type) (M : Valuation V) (v : String → Truth) (x : Datum), M.ComparesScalars →
        type.holds x → M.column name = M.datum? x →
        Judged scope (listed name "$in" items) first M v →
        Judged scope (listed name "$nin" items) first M v →
        (Selects v chosen.1.pattern ↔
          x.isAmong (Target.flattened items) ∨ Target.flattened items = [] ∧ x.isNull) ∧
        (Selects v excluded.1.pattern ↔ Target.flattened items = [] ∨
          x.isNull = false ∧ x.isAmong (Target.flattened items) = false) ∧
        ((Selects v excluded.1.pattern ↔ ¬Selects v chosen.1.pattern) ↔
          x.isNull = false ∨ (Target.flattened items).any Json.isNull) := by
  have htarget : scope.target name = ⟨name, some type⟩ := congrArg (Target.mk name) hf
  have hskips (op : Operator) : (scope.target name).skips (.operators [op]) = false := by
    rw [htarget]
    simp [Target.skips]
  obtain ⟨p, hp, hchosen⟩ := Target.membership_chosen hs hd ht
  obtain ⟨q, hq, hexcluded⟩ := Target.membership_excluded hs hd ht
  rw [← htarget] at hp hq
  have hin : Condition.ofJson (.obj [("$in", .arr items)]) = .ok (.operators [.isIn items]) := rfl
  have hnin : Condition.ofJson (.obj [("$nin", .arr items)]) =
      .ok (.operators [.notIn items]) := rfl
  obtain ⟨chosen, hchosenMade, hp⟩ := compile_listed scope hn hin (hskips _) hp first
  obtain ⟨excluded, hexcludedMade, hq⟩ := compile_listed scope hn hnin (hskips _) hq first
  refine ⟨chosen, excluded, hchosenMade, hexcludedMade, fun V M v x hM hx hcolumn hj hj' => ?_⟩
  rw [Selects, Selects, hp V M v hj, hq V M v hj', hchosen V M x hM hx hcolumn,
    hexcluded V M x hM hx hcolumn]
  exact ⟨.rfl, .rfl, x.left_iff_not_found (Target.flattened items)⟩

/-- A name from a list inside the list, which also has null. -/
theorem nested_name_selected :
    let items : List Json := [.str "a", .arr [.null, .str "b"]]
    let row : Row := [("name", .text "b")]
    let v : String → Truth := fun text =>
      if text = "\"name\" IN ($1, $2)" ∨ text = "\"name\" IS NOT NULL" then .yes else .no
    (Clause.IsFieldName "name" ∧ Sql.isDotted "name" = false ∧
      Scope.posts.schema.field? "name" = some .string ∧ FieldType.string.isScalar ∧
      (∀ item ∈ Target.flattened items, FieldType.string.takes item) ∧
      Judged .posts (listed "name" "$in" items) 1 (Valuation.ofRow row) v ∧
      Judged .posts (listed "name" "$nin" items) 1 (Valuation.ofRow row) v) ∧
    ∃ chosen excluded,
      compile .posts (listed "name" "$in" items) 1 = .ok chosen ∧
      compile .posts (listed "name" "$nin" items) 1 = .ok excluded ∧
      Selects v chosen.1.pattern ∧ ¬Selects v excluded.1.pattern := by
  intro items row v
  have hn : Clause.IsFieldName "name" := by decide +kernel
  have hf : Scope.posts.schema.field? "name" = some .string := by rfl
  have ht : ∀ item ∈ Target.flattened items, FieldType.string.takes item := by
    simp [items, Target.flattened, Json.arr?, FieldType.takes]
  have hin : Judged .posts (listed "name" "$in" items) 1 (Valuation.ofRow row) v := by
    refine judged_test .posts hn rfl rfl rfl ?_
    refine ⟨?_, ?_, trivial⟩
    all_goals
      change (_ : Truth) = _
      decide +kernel
  have hnin : Judged .posts (listed "name" "$nin" items) 1 (Valuation.ofRow row) v := by
    refine judged_test .posts hn rfl rfl rfl ?_
    refine ⟨?_, ?_, trivial⟩
    all_goals
      change (_ : Truth) = _
      decide +kernel
  refine ⟨⟨hn, by decide, hf, rfl, ht, hin, hnin⟩, ?_⟩
  obtain ⟨chosen, excluded, hchosen, hexcluded, hrow⟩ :=
    membership_selects_iff .posts hn (by decide) hf rfl ht 1
  obtain ⟨hfound, hleft, -⟩ := hrow Datum (Valuation.ofRow row) v (.text "b")
    (Valuation.ofRow_comparesScalars row) rfl rfl hin hnin
  refine ⟨chosen, excluded, hchosen, hexcluded, hfound.2 (.inl (by decide)), ?_⟩
  rw [hleft]
  decide

/-- A missing name is found by an empty list, which has nothing in it, and by a
list without null neither where the list is asked for nor where it is excluded. -/
theorem missing_name_against_lists :
    let v : String → Truth := fun text => if text = "\"name\" IS NULL" then .yes else .unknown
    (compile .posts (listed "name" "$in" []) 1 = .ok (⟨"\"name\" IS NULL", []⟩, []) ∧
      Judged .posts (listed "name" "$in" []) 1 (Valuation.ofRow []) v ∧
      Selects v "\"name\" IS NULL" ∧ Datum.null.isAmong (Target.flattened []) = false) ∧
    (compile .posts (listed "name" "$in" [.str "a"]) 1 =
        .ok (⟨"\"name\" IN ($1)", []⟩, [.text "a"]) ∧
      Judged .posts (listed "name" "$in" [.str "a"]) 1 (Valuation.ofRow []) v ∧
      ¬Selects v "\"name\" IN ($1)") ∧
    (compile .posts (listed "name" "$nin" [.str "a"]) 1 =
        .ok (⟨"\"name\" NOT IN ($1)", []⟩, [.text "a"]) ∧
      Judged .posts (listed "name" "$nin" [.str "a"]) 1 (Valuation.ofRow []) v ∧
      ¬Selects v "\"name\" NOT IN ($1)") := by
  intro v
  have hn : Clause.IsFieldName "name" := by decide +kernel
  refine ⟨⟨?_, ?_, ?_, rfl⟩, ⟨?_, ?_, ?_⟩, ?_, ?_, ?_⟩
  · rw [listed, compile_single _ hn]
    rfl
  · refine judged_test .posts hn rfl rfl rfl ?_
    change (_ : Truth) = _
    decide +kernel
  · rw [Selects]
    decide +kernel
  · rw [listed, compile_single _ hn]
    rfl
  · refine judged_test .posts hn rfl rfl rfl ?_
    change (_ : Truth) = _
    decide +kernel
  · rw [Selects]
    decide +kernel
  · rw [listed, compile_single _ hn]
    rfl
  · refine judged_test .posts hn rfl rfl rfl ?_
    change (_ : Truth) = _
    decide +kernel
  · rw [Selects]
    decide +kernel

end Query
end DocSql
