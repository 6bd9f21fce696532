import DocSql.Proofs.Query.Complement
import DocSql.Proofs.Query.Equality

/-!
Asking for a value and asking for all others. A bare value is read by its tag
and a value that is excluded by the type of the field, but both come to one
parameter; a row without a value differs from every value but null. So the rows
of a class fall in two parts, whatever is asked for.
-/
namespace DocSql

open Sql (Expr Filter Predicate Selects Truth Valuation)

namespace Sql

variable {V : Type} {M : Valuation V}

/-- `<>` holds between values just where `=` does not. -/
def Valuation.Complements (M : Valuation V) : Prop :=
  ∀ x y, M.relate .ne x y = !M.relate .eq x y

theorem Valuation.ofRow_complements (row : Row) : (ofRow row).Complements := fun _ _ => rfl

namespace Predicate

/-- Exactly one of two conditions holds in a row. -/
def Divide (M : Valuation V) (p q : Predicate) : Prop := Xor (p.truth M = .yes) (q.truth M = .yes)

theorem isNull_divides (e : Expr) : Divide M (isNull e) (isNotNull e) := by
  unfold Divide
  simp only [truth, Truth.ofBool_eq_yes]
  cases e.value M with
  | none => simp [Xor]
  | some x => simp [Xor]

theorem compare_divides (hM : M.Complements) (e : Expr) {d : Datum} (hd : d.isNull = false) :
    Divide M (compare e .eq (.param d)) (orNull e (compare e .ne (.param d))) := by
  have hparam : (Expr.param d).value M = some (M.datum d) := by
    rw [Expr.value, Valuation.datum?, hd]
    rfl
  unfold Divide orNull
  simp only [truth, truths, hparam]
  cases e.value M with
  | none => simp [Xor, Valuation.compare, Truth.any_eq_yes, Truth.ofBool]
  | some x =>
    simp only [Valuation.compare, hM x, Truth.any_eq_yes, List.mem_cons, List.not_mem_nil, or_false,
      Option.isNone_some, @eq_comm _ Truth.yes, Truth.ofBool_eq_yes]
    cases M.relate .eq x (M.datum d) with
    | _ => simp [Xor]

end Predicate
end Sql

namespace Target

variable {scope : Scope} {name : String} {type : FieldType} {value : Json}

theorem operand_of_admits (name : String) (hc : type.isComparable) (he : type.equality = .eq)
    (hv : type.Admits value) :
    value.arr? = none ∧ value.typeTag? ≠ some "GeoPoint" ∧
      operand ⟨name, some type⟩ value = Datum.encodeAs name type value ∧
      Yields (Datum.encodeAs name type value) fun d => Expr.ofDatum d = .param d := by
  cases hv with
  | string _ | boolean _ | pointerId _ => exact ⟨rfl, nofun, rfl, .ok rfl⟩
  | number n => exact ⟨rfl, nofun, rfl, .ok (Expr.ofDatum_number n)⟩
  | dateText iso =>
    exact ⟨rfl, nofun, rfl, .map ((Timestamp.ofJson_refuses _).mono fun _ _ => rfl)⟩
  | date h =>
    obtain ⟨members, rfl⟩ := Json.obj_of_typeTag? h
    refine ⟨rfl, by simp [h], ?_, .map ((Timestamp.ofJson_refuses _).mono fun _ _ => rfl)⟩
    simp only [operand, Datum.infer, h, Datum.encodeAs]
  | pointer h =>
    obtain ⟨members, rfl⟩ := Json.obj_of_typeTag? h
    exact ⟨rfl, by simp [h], rfl, .map ((Datum.pointerId_refuses _).mono fun _ _ => rfl)⟩
  | geoPoint _ | polygon _ => cases he
  | texts _ | list _ | listOf _ _ | object _ _ | bytes _ | file _ | fileName _ => cases hc

theorem clause_equal (hs : scope.foldCase = false) (hd : Sql.isDotted name = false)
    (hc : type.isComparable) (he : type.equality = .eq) (hv : type.Admits value) :
    (do clause scope ⟨name, some type⟩ (← Condition.ofJson value)) =
      (fun d => [.compare (.column name) .eq (.param d)]) <$>
        operand ⟨name, some type⟩ value := by
  obtain ⟨-, -, hoperand, hparam⟩ := operand_of_admits name hc he hv
  rw [clause_of_admits hs hd hc hv, hoperand]
  cases h : Datum.encodeAs name type value with
  | error e => rfl
  | ok d =>
    change Except.ok [comparesWith name type d] = .ok _
    rw [comparesWith, he, hparam.result h]

theorem clause_excluding (value : Json) :
    clause scope ⟨name, some type⟩ (.operators [.ne value]) =
      (fun p => [p]) <$> differs ⟨name, some type⟩ value := by
  have hskips : skips ⟨name, some type⟩ (.operators [.ne value]) = false := by
    simp [skips]
  have hop : operator scope ⟨name, some type⟩ (.ne value) =
      some <$> differs ⟨name, some type⟩ value := rfl
  refine clause_single _ hskips ?_
  rw [conditions_operators, List.mapM_cons, hop]
  cases differs ⟨name, some type⟩ value with
  | _ => rfl

theorem isArray_of_comparable (hc : type.isComparable) : isArray ⟨name, some type⟩ = false := by
  cases type with
  | array | arrayOf _ => cases hc
  | _ => rfl

theorem differs_of_admits (hd : Sql.isDotted name = false) (hc : type.isComparable)
    (he : type.equality = .eq) (hv : type.Admits value) (hr : value.has "$relativeTime" = false) :
    differs ⟨name, some type⟩ value =
      (fun d => .orNull (.column name) (.compare (.column name) .ne (.param d))) <$>
        operand ⟨name, some type⟩ value := by
  have hdotted : isDotted ⟨name, some type⟩ = false := hd
  obtain ⟨-, hpoint, -⟩ := operand_of_admits name hc he hv
  unfold differs rejectRelativeTime sides
  rw [hr, isArray_of_comparable hc, hv.not_null, hdotted, column_undotted hd]
  simp only [Bool.false_eq_true, if_false, if_neg hpoint]
  cases operand ⟨name, some type⟩ value with
  | _ => rfl

theorem clauses_divide (hs : scope.foldCase = false) (hd : Sql.isDotted name = false)
    (hc : type.isComparable) (he : type.equality = .eq) (hv : value = .null ∨ type.Admits value)
    (hr : value.has "$relativeTime" = false) :
    let t : Target := ⟨name, some type⟩
    (∃ e, (do t.clause scope (← Condition.ofJson value)) = .error e ∧
      t.clause scope (.operators [.ne value]) = .error e) ∨
    ∃ p q, (do t.clause scope (← Condition.ofJson value)) = .ok [p] ∧
      t.clause scope (.operators [.ne value]) = .ok [q] ∧ p.params = q.params ∧
      ∀ (V : Type) (M : Valuation V), M.Complements → Predicate.Divide M p q := by
  intro t
  rw [clause_excluding]
  rcases hv with rfl | hv
  · have hdiffers : t.differs .null = .ok (.isNotNull t.column) := by
      unfold differs
      rw [isArray_of_comparable hc]
      rfl
    refine .inr ⟨.isNull t.column, .isNotNull t.column, rfl, by rw [hdiffers]; rfl, rfl, ?_⟩
    exact fun V M _ => Predicate.isNull_divides t.column
  · rw [clause_equal hs hd hc he hv, differs_of_admits hd hc he hv hr]
    cases h : operand t value with
    | error e => exact .inl ⟨e, rfl, rfl⟩
    | ok d =>
      have hnull : d.isNull = false := ((operand_isNull value).result h).trans hv.not_null
      exact .inr ⟨_, _, rfl, rfl, rfl, fun V M hM => Predicate.compare_divides hM _ hnull⟩

theorem conditions_of_clause {t : Target} {condition : Condition} {found : List Predicate}
    (hk : t.skips condition = false) (h : t.clause scope condition = .ok found) :
    t.conditions scope condition = .ok found := by
  unfold clause at h
  rw [hk] at h
  cases hfound : t.conditions scope condition with
  | error e =>
    rw [hfound] at h
    cases h
  | ok all =>
    rw [hfound] at h
    cases all with
    | nil => cases h
    | cons p rest => exact h

end Target

namespace Query

variable (scope : Scope) {name : String} {value : Json}

def excluding (name : String) (value : Json) : Json := .obj [(name, .obj [("$ne", value)])]

theorem ofJson_misnamed (h : ¬Clause.IsFieldName name) :
    ∃ e, ∀ value : Json, value.arr? = none → ofJson (.obj [(name, value)]) = .error e := by
  cases hg : Group.ofKey? name with
  | some kind =>
    refine ⟨.invalidQuery (name ++ " must be a non-empty array"), fun value hv => ?_⟩
    cases value with
    | arr items => cases hv
    | null | bool _ | num _ | str _ | obj _ =>
      simp only [ofJson, ofMembers, hg, ofItems]
      rfl
  | none =>
    have hmembers (value : Json) : ofJson (.obj [(name, value)]) =
        (fun clause => [clause]) <$> Clause.ofField name value := by
      simp only [ofJson, ofMembers, hg]
      cases Clause.ofField name value with
      | _ => rfl
    by_cases hs : name.startsWith "$"
    · refine ⟨.unsupported ("unsupported query operator: " ++ name), fun value _ => ?_⟩
      rw [hmembers, Clause.ofField, if_pos hs]
      rfl
    · have ha : name.startsWith "_auth_data_" := by
        by_contra ha
        exact h ⟨Bool.eq_false_iff.2 hs, Bool.eq_false_iff.2 ha⟩
      refine ⟨.unsupported ("cannot query on '" ++ name ++ "'; query authData.<provider> instead"),
        fun value _ => ?_⟩
      rw [hmembers, Clause.ofField, if_neg hs, if_pos ha]
      rfl

theorem selects_single {first : Nat} {condition : Condition} {p : Predicate}
    {made : Filter × List Datum} (hn : Clause.IsFieldName name)
    (hc : Condition.ofJson value = .ok condition)
    (hk : (scope.target name).skips condition = false)
    (hp : (scope.target name).clause scope condition = .ok [p])
    (hm : compile scope (.obj [(name, value)]) first = .ok made) {V : Type} {M : Valuation V}
    {v : String → Truth} (hj : Judged scope (.obj [(name, value)]) first M v) :
    Selects v made.1.pattern ↔ p.truth M = .yes := by
  obtain ⟨other, hother, heval⟩ :=
    compile_test scope hn hc hk (Target.conditions_of_clause hk hp) first
  cases hother.symm.trans hm
  rw [Selects, heval V M v hj]

theorem compile_misnamed (h : ¬Clause.IsFieldName name) :
    ∃ e, ∀ value : Json, value.arr? = none → ∀ first,
      compile scope (.obj [(name, value)]) first = .error e := by
  obtain ⟨e, hrefused⟩ := ofJson_misnamed h
  refine ⟨e, fun value hv first => ?_⟩
  rw [compile_eq, hrefused value hv]
  rfl

theorem skips_declared {type : FieldType} (h : scope.schema.field? name = some type)
    (condition : Condition) : (scope.target name).skips condition = false := by
  unfold Scope.target
  rw [h]
  cases condition with
  | _ => simp [Target.skips]

theorem compiled_divides {p q : Predicate} (hn : Clause.IsFieldName name)
    (hk : ∀ condition, (scope.target name).skips condition = false)
    (hp : (do (scope.target name).clause scope (← Condition.ofJson value)) = .ok [p])
    (hq : (scope.target name).clause scope (.operators [.ne value]) = .ok [q])
    {first : Nat} {made others : Filter × List Datum}
    (hmade : compile scope (.obj [(name, value)]) first = .ok made)
    (hothers : compile scope (excluding name value) first = .ok others) {V : Type}
    {M : Valuation V} {v : String → Truth} (hj : Judged scope (.obj [(name, value)]) first M v)
    (hj' : Judged scope (excluding name value) first M v) (hrows : Predicate.Divide M p q) :
    Xor (Selects v made.1.pattern) (Selects v others.1.pattern) := by
  obtain ⟨condition, hcondition, hclause⟩ := bind_eq_ok.1 hp
  rw [selects_single scope hn hcondition (hk _) hclause hmade hj,
    selects_single scope hn rfl (hk _) hq hothers hj']
  exact hrows

/-- Asking for a value of a column that `=` compares and excluding it either
both fail, and for the same reason, or bind the same parameters, and then
exactly one of them selects a row, whether or not it has a value there. -/
theorem excluding_divides {schema : Schema} {type : FieldType} (hd : Sql.isDotted name = false)
    (hi : Schema.isInjected name = false) (hf : schema.field? name = some type)
    (hc : type.isComparable) (he : type.equality = .eq) (hv : value = .null ∨ type.Admits value)
    (hr : value.has "$relativeTime" = false) (now : Timestamp) (first : Nat) :
    let scope := Scope.ofSchema schema now
    let asked := compile scope (.obj [(name, value)]) first
    let excluded := compile scope (excluding name value) first
    Prod.snd <$> asked = Prod.snd <$> excluded ∧
    ∀ made others, asked = .ok made → excluded = .ok others →
      ∀ (V : Type) (M : Valuation V) (v : String → Truth), M.Complements →
        Judged scope (.obj [(name, value)]) first M v →
        Judged scope (excluding name value) first M v →
        Xor (Selects v made.1.pattern) (Selects v others.1.pattern) := by
  intro scope asked excluded
  by_cases hn : Clause.IsFieldName name
  · have hstored : scope.schema.field? name = some type := (schema.field?_toStorage hi).trans hf
    have htarget : scope.target name = ⟨name, some type⟩ := congrArg (Target.mk name) hstored
    have hdivide := @Target.clauses_divide scope name type value rfl hd hc he hv hr
    rw [← htarget] at hdivide
    have hasked : asked = _ := compile_single scope hn value first
    have hexcluded : excluded = _ := compile_single scope hn (.obj [("$ne", value)]) first
    rw [← bind_assoc] at hasked
    change _ = ((scope.target name).clause scope (.operators [.ne value]) >>= _) at hexcluded
    obtain ⟨e, hp, hq⟩ | ⟨p, q, hp, hq, hparams, hrows⟩ := hdivide
    · rw [hasked, hexcluded, hp, hq]
      exact ⟨rfl, nofun⟩
    · refine ⟨?_, fun made others hmade hothers V M v hM hj hj' => ?_⟩
      · rw [hasked, hexcluded, hp, hq]
        exact congrArg (fun params => Except.ok (params ++ [])) hparams
      · exact compiled_divides scope hn (skips_declared scope hstored) hp hq hmade hothers hj hj'
          (hrows V M hM)
  · obtain ⟨e, hrefused⟩ := compile_misnamed scope hn
    have hlist : value.arr? = none := by
      rcases hv with rfl | hv
      · rfl
      · exact (Target.operand_of_admits name hc he hv).1
    have hasked : asked = .error e := hrefused value hlist first
    have hexcluded : excluded = .error e := hrefused _ rfl first
    rw [hasked, hexcluded]
    exact ⟨rfl, nofun⟩

/-- A row without a stock is not among those with a stock of three, so it is one of the others. -/
theorem missing_stock_excluded :
    let schema : Schema := { className := "Post", fields := [("name", .string), ("stock", .number)] }
    let v : String → Truth := fun text => if text = "\"stock\" IS NULL" then .yes else .unknown
    (Sql.isDotted "stock" = false ∧ Schema.isInjected "stock" = false ∧
      schema.field? "stock" = some .number ∧ FieldType.number.isComparable ∧
      FieldType.number.equality = .eq ∧ FieldType.number.Admits (.int 3) ∧
      (Json.int 3).has "$relativeTime" = false) ∧
    compile .posts (.obj [("stock", .int 3)]) 1 = .ok (⟨"\"stock\" = $1", []⟩, [.int 3]) ∧
    compile .posts (excluding "stock" (.int 3)) 1 =
      .ok (⟨"(\"stock\" <> $1 OR \"stock\" IS NULL)", []⟩, [.int 3]) ∧
    (Valuation.ofRow []).Complements ∧
    Judged .posts (.obj [("stock", .int 3)]) 1 (Valuation.ofRow []) v ∧
    Judged .posts (excluding "stock" (.int 3)) 1 (Valuation.ofRow []) v ∧
    Xor (Selects v "\"stock\" = $1") (Selects v "(\"stock\" <> $1 OR \"stock\" IS NULL)") := by
  intro schema v
  have hn : Clause.IsFieldName "stock" := by decide +kernel
  have hasked : compile .posts (.obj [("stock", .int 3)]) 1 =
      .ok (⟨"\"stock\" = $1", []⟩, [.int 3]) := by
    rw [compile_single _ hn]
    rfl
  have hexcluded : compile .posts (excluding "stock" (.int 3)) 1 =
      .ok (⟨"(\"stock\" <> $1 OR \"stock\" IS NULL)", []⟩, [.int 3]) := by
    rw [excluding, compile_single _ hn]
    rfl
  have hj : Judged .posts (.obj [("stock", .int 3)]) 1 (Valuation.ofRow []) v := by
    refine judged_test .posts hn rfl rfl rfl ?_
    change (_ : Truth) = _
    decide +kernel
  have hj' : Judged .posts (excluding "stock" (.int 3)) 1 (Valuation.ofRow []) v := by
    refine judged_test .posts hn rfl rfl rfl ?_
    refine ⟨?_, ?_, trivial⟩
    all_goals
      change (_ : Truth) = _
      decide +kernel
  have hc := Valuation.ofRow_complements []
  refine ⟨⟨by decide, by decide, rfl, rfl, rfl, .number _, rfl⟩, hasked, hexcluded, hc, hj, hj', ?_⟩
  have hf : schema.field? "stock" = some .number := rfl
  exact (excluding_divides (by decide) (by decide) hf rfl rfl (.inr (.number _)) rfl ⟨0, 0⟩ 1).2
    _ _ hasked hexcluded _ _ v hc hj hj'

end Query
end DocSql
