import DocSql.Proofs.Query.TextOperands
import DocSql.Proofs.Storage.Values

/-!
Conditions on a column that no schema declares, next to the same conditions with
the column declared to hold dates. Tables have the dates of creation and change
without a declaration, but a condition reads a text as an instant, and takes a
relative time at all, only where the declared type says that these are dates.
-/
namespace DocSql

open Sql (Expr Predicate)

namespace Datum

def isTimestamp : Datum → Bool
  | timestamp _ => true
  | _ => false

def instants (params : List Datum) : Nat := params.countP isTimestamp

theorem instants_append (params more : List Datum) :
    instants (params ++ more) = instants params + instants more := List.countP_append

end Datum

open Datum (instants)

/-- Two outcomes that are the same where `k` is zero; where both are results,
the second binds `k` instants more. -/
structure Gains {α : Type} (params : α → List Datum) (k : Nat) (work other : Except Error α) :
    Prop where
  same : k = 0 → work = other
  gain : ∀ {a b : α}, work = .ok a → other = .ok b → instants (params b) = instants (params a) + k

namespace Gains

variable {α β : Type} {params : α → List Datum} {others : β → List Datum} {k j : Nat}
  {work other : Except Error α}

theorem refl (work : Except Error α) : Gains params 0 work work where
  same _ := rfl
  gain ha hb := by
    cases ha.symm.trans hb
    rfl

theorem ok {a b : α} (hs : k = 0 → a = b) (hg : instants (params b) = instants (params a) + k) :
    Gains params k (.ok a) (.ok b) where
  same hk := congrArg Except.ok (hs hk)
  gain ha hb := by
    cases ha
    cases hb
    exact hg

theorem of_error (hk : k ≠ 0) (e : Error) (other : Except Error α) :
    Gains params k (.error e) other where
  same h := absurd h hk
  gain ha := by cases ha

theorem eq_of_ok (h : Gains params k work other) (hk : k = 0) {a b : α} (ha : work = .ok a)
    (hb : other = .ok b) : a = b := Except.ok.inj (ha.symm.trans ((h.same hk).trans hb))

theorem bind {f g : α → Except Error β} (h : Gains params k work other) (hj : j = 0 → k = 0)
    (hn : ∀ a b, work = .ok a → other = .ok b → Gains others j (f a) (g b)) :
    Gains others j (work >>= f) (other >>= g) where
  same hzero := by
    obtain rfl := h.same (hj hzero)
    cases work with
    | error e => rfl
    | ok a => exact (hn a a rfl rfl).same hzero
  gain hc hd := by
    obtain ⟨a, ha, hc⟩ := bind_eq_ok.1 hc
    obtain ⟨b, hb, hd⟩ := bind_eq_ok.1 hd
    exact (hn a b ha hb).gain hc hd

theorem bind_same {f g : α → Except Error β} (work : Except Error α)
    (hn : ∀ a, Gains others j (f a) (g a)) : Gains others j (work >>= f) (work >>= g) := by
  cases work with
  | error e => exact ⟨fun _ => rfl, nofun⟩
  | ok a => exact hn a

theorem map {f : α → β} (h : Gains params k work other)
    (hf : ∀ a, instants (others (f a)) = instants (params a)) :
    Gains others k (f <$> work) (f <$> other) where
  same hzero := congrArg (f <$> ·) (h.same hzero)
  gain hc hd := by
    obtain ⟨a, ha, rfl⟩ := map_eq_ok.1 hc
    obtain ⟨b, hb, rfl⟩ := map_eq_ok.1 hd
    rw [hf, hf, h.gain ha hb]

theorem both {γ : Type} {made : γ → List Datum} {f : α → β → γ} {rest more : Except Error β}
    (h : Gains params k work other) (hr : Gains others j rest more)
    (hf : ∀ a b, instants (made (f a b)) = instants (params a) + instants (others b)) :
    Gains made (k + j) (do return f (← work) (← rest)) (do return f (← other) (← more)) := by
  refine h.bind (by omega) fun a b ha hb => hr.bind (by omega) fun c d hc hd => .ok ?_ ?_
  · intro hzero
    rw [h.eq_of_ok (by omega) ha hb, hr.eq_of_ok (by omega) hc hd]
  · rw [hf, hf, h.gain ha hb, hr.gain hc hd]
    omega

theorem mapM {γ : Type} {f g : γ → Except Error α} {count : γ → Nat} {items : List γ}
    (h : ∀ item ∈ items, Gains params (count item) (f item) (g item)) :
    Gains (List.flatMap params) (items.map count).sum (items.mapM f) (items.mapM g) := by
  induction items with
  | nil => exact .refl _
  | cons item rest ih =>
    rw [List.mapM_cons, List.mapM_cons, List.map_cons, List.sum_cons]
    refine (h item List.mem_cons_self).both
      (ih fun other ho => h other (List.mem_cons_of_mem item ho)) fun a as => ?_
    rw [List.flatMap_cons, Datum.instants_append]

end Gains

/-- The instants that only a column of dates reads out of an operand. -/
def Operator.datesRead (foldCase : Bool) : Operator → Nat
  | eq value => if foldCase then 0 else value.isText.toNat
  | ne value => value.isText.toNat
  | isIn items | notIn items => (Target.flattened items).countP Json.isText
  | compare _ value => if value.has "$relativeTime" then 1 else value.isText.toNat
  | _ => 0

def Condition.datesRead (foldCase : Bool) : Condition → Nat
  | scalar value => if foldCase then 0 else value.toJson.isText.toNat
  | operators tests => (tests.map (Operator.datesRead foldCase)).sum
  | _ => 0

namespace Target

def undeclared (name : String) : Target := ⟨name, none⟩

def dates (name : String) : Target := ⟨name, some .date⟩

variable {name : String} (scope : Scope) (declared : Schema)

theorem sum_isText (items : List Json) :
    ((items.filter (!·.isNull)).map fun item => item.isText.toNat).sum =
      items.countP Json.isText := by
  induction items with
  | nil => rfl
  | cons item rest ih =>
    rw [List.countP_cons, ← ih]
    cases item with
    | null => rfl
    | str _ => exact Nat.add_comm 1 _
    | bool _ | num _ | arr _ | obj _ => exact Nat.zero_add _

theorem operand_gains (value : Json) :
    Gains (fun d => [d]) value.isText.toNat ((undeclared name).operand value)
      ((dates name).operand value) := by
  cases value with
  | str s =>
    refine ⟨nofun, fun ha hb => ?_⟩
    obtain ⟨instant, -, rfl⟩ := map_eq_ok.1 hb
    cases ha
    rfl
  | null | bool _ | num _ | arr _ | obj _ => exact .refl _

theorem compare_operand_gains (name : String) (relation : Sql.Relation) (value : Json) :
    Gains Predicate.params value.isText.toNat
      (do return .compare (.column name) relation (.param (← (undeclared name).operand value)))
      (do return .compare (.column name) relation (.param (← (dates name).operand value))) :=
  (operand_gains value).map fun _ => rfl

theorem instants_single (p : Predicate) :
    instants (Predicate.paramsAll [p]) = instants p.params :=
  congrArg instants (List.append_nil p.params)

section Operators

variable (hd : Sql.isDotted name = false)
include hd

theorem undeclared_column : (undeclared name).column = .column name := column_undotted hd _

theorem dates_column : (dates name).column = .column name := column_undotted hd _

theorem equals_gains (value : Json) :
    Gains Predicate.params (if scope.foldCase then 0 else value.isText.toNat)
      (equals scope (undeclared name) value)
      (equals { scope with schema := declared } (dates name) value) := by
  have hdotted : (undeclared name).isDotted = false := hd
  have hdotted' : (dates name).isDotted = false := hd
  have hplain := compare_operand_gains name .eq value
  unfold equals
  rw [undeclared_column hd, dates_column hd, hdotted, hdotted']
  refine .bind_same (rejectRelativeTime value) fun _ => ?_
  cases scope.foldCase with
  | false =>
    cases value with
    | _ => exact hplain
  | true =>
    cases value with
    | str s => exact .refl _
    | _ => exact hplain

theorem differs_gains (value : Json) :
    Gains Predicate.params value.isText.toNat ((undeclared name).differs value)
      ((dates name).differs value) := by
  have hdotted : (undeclared name).isDotted = false := hd
  have hdotted' : (dates name).isDotted = false := hd
  have hplain : Gains Predicate.params value.isText.toNat
      (do
        let d ← (undeclared name).operand value
        return .orNull (.column name) (.compare (.column name) .ne (.param d)))
      (do
        let d ← (dates name).operand value
        return .orNull (.column name) (.compare (.column name) .ne (.param d))) :=
    (operand_gains value).map fun _ => rfl
  have harray : (undeclared name).isArray = false := rfl
  have harray' : (dates name).isArray = false := rfl
  unfold differs sides
  simp only [undeclared_column hd, dates_column hd, hdotted, hdotted', harray, harray',
    Bool.false_eq_true, if_false, bind_assoc, pure_bind]
  refine .bind_same (rejectRelativeTime value) fun _ => ?_
  split
  next hn =>
    cases value with
    | null => exact .refl _
    | bool _ | num _ | str _ | arr _ | obj _ => cases hn
  next =>
    split
    next htag =>
      obtain ⟨members, rfl⟩ := Json.obj_of_typeTag? htag
      exact .refl _
    next => exact hplain

theorem comparison_gains (comparator : Comparator) (value : Json) :
    Gains Predicate.params (if value.has "$relativeTime" then 1 else value.isText.toNat)
      (comparison scope (undeclared name) comparator value)
      (comparison { scope with schema := declared } (dates name) comparator value) := by
  have hdotted : (undeclared name).isDotted = false := hd
  have hdotted' : (dates name).isDotted = false := hd
  unfold comparison sides Json.has
  simp only [undeclared_column hd, dates_column hd, hdotted, hdotted', Bool.false_eq_true, if_false,
    bind_assoc, pure_bind]
  cases value.get? "$relativeTime" with
  | none => exact compare_operand_gains name _ value
  | some relative => exact .of_error Nat.one_ne_zero _ _

theorem scalarMembership_gains (items : List Json) (negated : Bool) :
    Gains Predicate.params (items.countP Json.isText)
      ((undeclared name).scalarMembership items negated)
      ((dates name).scalarMembership items negated) := by
  have hvalues : Gains (List.flatMap fun d => [d]) (items.countP Json.isText)
      ((items.filter (!·.isNull)).mapM (undeclared name).operand)
      ((items.filter (!·.isNull)).mapM (dates name).operand) := by
    rw [← sum_isText]
    exact .mapM fun item _ => operand_gains item
  unfold scalarMembership
  rw [undeclared_column hd, dates_column hd]
  -- Both lists have a value for each item, so neither is empty without the other.
  refine hvalues.bind id fun values read hmade hread => ?_
  have hlength {t : Target} {found : List Datum}
      (h : (items.filter (!·.isNull)).mapM t.operand = .ok found) :
      (items.filter (!·.isNull)).length = found.length :=
    ((Yields.mapM_forall₂ fun item _ => (t.operand_refuses item).mono fun d _ =>
      (trivial : (fun _ _ => True) item d)).result h).length_eq
  have hgain := hvalues.gain hmade hread
  rw [List.flatMap_singleton', List.flatMap_singleton'] at hgain
  have hlengths := (hlength hmade).symm.trans (hlength hread)
  cases values with
  | nil =>
    cases read with
    | nil =>
      have hzero : items.countP Json.isText = 0 := Nat.add_left_cancel hgain.symm
      rw [hzero]
      exact .refl _
    | cons _ _ => cases hlengths
  | cons d ds =>
    cases read with
    | nil => cases hlengths
    | cons d' ds' =>
      have hok (p : List Datum → Predicate)
          (hp : ∀ values, instants (p values).params = instants values) :
          Gains Predicate.params (items.countP Json.isText) (.ok (p (d :: ds)))
            (.ok (p (d' :: ds'))) :=
        .ok (fun hk => congrArg p (hvalues.eq_of_ok hk hmade hread)) (by rw [hp, hp, hgain])
      cases negated with
      | false =>
        cases hnull : items.any Json.isNull with
        | false => exact hok (.isIn (.column name)) fun _ => rfl
        | true =>
          exact hok (fun values => .paren (.or [.isNull (.column name), .isIn (.column name) values]))
            fun values => by simp [Predicate.params, Predicate.paramsAll, Expr.params]
      | true =>
        cases hnull : items.any Json.isNull with
        | false => exact hok (.notIn (.column name)) fun _ => rfl
        | true =>
          exact hok (fun values =>
              .paren (.and [.isNotNull (.column name), .notIn (.column name) values]))
            fun values => by simp [Predicate.params, Predicate.paramsAll, Expr.params]

theorem membership_gains (items : List Json) (negated : Bool) :
    Gains (fun found => Predicate.paramsAll found.toList) ((flattened items).countP Json.isText)
      ((undeclared name).membership items negated) ((dates name).membership items negated) := by
  have hdotted : (undeclared name).isDotted = false := hd
  have hdotted' : (dates name).isDotted = false := hd
  unfold membership
  rw [undeclared_column hd, dates_column hd, hdotted, hdotted']
  change Gains _ _ (if (flattened items).isEmpty then _ else _)
    (if (flattened items).isEmpty then _ else _)
  split
  next hempty =>
    rw [List.isEmpty_iff.1 hempty]
    exact .refl _
  next => exact (scalarMembership_gains hd (flattened items) negated).map instants_single

theorem operator_gains (op : Operator) :
    Gains (fun found => Predicate.paramsAll found.toList) (op.datesRead scope.foldCase)
      (operator scope (undeclared name) op)
      (operator { scope with schema := declared } (dates name) op) := by
  cases op with
  | eq value =>
    cases value with
    | null =>
      have hnone : (Operator.eq .null).datesRead scope.foldCase = 0 := ite_self 0
      rw [hnone]
      exact .refl _
    | bool _ | num _ | str _ | arr _ | obj _ =>
      exact (equals_gains scope declared hd _).map instants_single
  | ne value => exact (differs_gains hd value).map instants_single
  | isIn items => exact membership_gains hd items false
  | notIn items => exact membership_gains hd items true
  | compare comparator value =>
    exact (comparison_gains scope declared hd comparator value).map instants_single
  | present expected =>
    cases expected with
    | _ => exact .refl _
  | all items => exact .refl _
  | containedBy _ | search _ | near _ _ | withinSphere _ _ | withinBox _ _ | withinPolygon _
    | covers _ | regex _ _ => exact .refl _

theorem conditions_gains (condition : Condition) :
    Gains Predicate.paramsAll (condition.datesRead scope.foldCase)
      ((undeclared name).conditions scope condition)
      ((dates name).conditions { scope with schema := declared } condition) := by
  cases condition with
  | scalar value =>
    exact (equals_gains scope declared hd value.toJson).map instants_single
  | operators tests =>
    have hflat (results : List (Option Predicate)) : Predicate.paramsAll (results.filterMap id) =
        results.flatMap fun found => Predicate.paramsAll found.toList := by
      induction results with
      | nil => rfl
      | cons found rest ih =>
        rw [List.flatMap_cons, ← ih, ← Predicate.paramsAll_append]
        cases found with
        | none => rfl
        | some p => rfl
    exact (Gains.mapM fun op _ => operator_gains scope declared hd op).map fun results =>
      congrArg instants (hflat results)
  | null | pointer _ | date _ | geoPoint _ | polygon _ => exact .refl _

theorem clause_gains {condition : Condition} (ha : condition.asksAbsence = false) :
    Gains Predicate.paramsAll (condition.datesRead scope.foldCase)
      ((undeclared name).clause scope condition)
      ((dates name).clause { scope with schema := declared } condition) := by
  have hskips (t : Target) : t.skips condition = false := by
    rw [skips_eq, ha, Bool.and_false]
  have hconditions := conditions_gains scope declared hd condition
  unfold clause
  rw [hskips, hskips]
  refine hconditions.bind id fun found read hfound hread => ?_
  have hgain := hconditions.gain hfound hread
  have hsame (hk : condition.datesRead scope.foldCase = 0) : found = read :=
    hconditions.eq_of_ok hk hfound hread
  -- A clause without a condition is refused, which leaves nothing to count.
  cases found with
  | nil =>
    cases read with
    | nil => exact ⟨fun _ => rfl, nofun⟩
    | cons q qs => exact ⟨fun hk => absurd (hsame hk) nofun, nofun⟩
  | cons p ps =>
    cases read with
    | nil => exact ⟨fun hk => absurd (hsame hk) nofun, nofun⟩
    | cons q qs => exact .ok hsame hgain

end Operators

theorem clause_schema (t : Target) (condition : Condition) :
    t.clause { scope with schema := declared } condition = t.clause scope condition := by
  cases condition with
  | _ => rfl

end Target

namespace Query

def datesRead (foldCase : Bool) (name : String) (fields : List (String × Condition)) : Nat :=
  (fields.map fun field => if field.1 = name then field.2.datesRead foldCase else 0).sum

theorem datesRead_append (foldCase : Bool) (name : String) (fields more : List (String × Condition)) :
    datesRead foldCase name (fields ++ more) =
      datesRead foldCase name fields + datesRead foldCase name more := by
  rw [datesRead, List.map_append, List.sum_append]
  rfl

theorem conjunction_params (found : List Predicate) :
    (conjunction found).params = Predicate.paramsAll found := by
  cases found with
  | _ => rfl

theorem group_params (kind : Group) (parts : List Predicate) :
    Predicate.paramsAll [kind.predicate parts] = Predicate.paramsAll parts := by
  cases kind with
  | _ => exact List.append_nil _

/-- A column that the schema of a scope misses, and another schema has with dates. -/
structure Dates (scope : Scope) (declared : Schema) (name : String) : Prop where
  undotted : Sql.isDotted name = false
  missing : scope.schema.field? name = none
  field? : ∀ other, declared.field? other =
    if name = other then some .date else scope.schema.field? other

variable {scope : Scope} {declared : Schema} {name : String}

theorem Dates.field_gains (hs : Dates scope declared name) {other : String} {condition : Condition}
    (ha : other = name → condition.asksAbsence = false) :
    Gains Predicate.paramsAll (if other = name then condition.datesRead scope.foldCase else 0)
      ((scope.target other).clause scope condition)
      (Target.clause { scope with schema := declared } ⟨other, declared.field? other⟩ condition) := by
  by_cases h : other = name
  · subst h
    rw [if_pos rfl, Scope.target, hs.missing, hs.field?, if_pos rfl]
    exact Target.clause_gains scope declared hs.undotted (ha rfl)
  · rw [if_neg h, hs.field?, if_neg (Ne.symm h), Target.clause_schema]
    exact .refl _

mutual

theorem clausePredicates_gains (hs : Dates scope declared name) : ∀ clause : Clause,
    (∀ field ∈ clauseFields clause, field.1 = name → field.2.asksAbsence = false) →
      Gains Predicate.paramsAll (datesRead scope.foldCase name (clauseFields clause))
        (clausePredicates scope clause)
        (clausePredicates { scope with schema := declared } clause)
  | .field other condition, h => by
    have hfield := hs.field_gains (h (other, condition) (List.mem_singleton_self _))
    simp only [clausePredicates, clauseFields, datesRead, List.map_cons, List.map_nil,
      List.sum_cons, List.sum_nil, Nat.add_zero]
    exact hfield
  | .group kind queries, h => by
    simp only [clausePredicates, clauseFields]
    exact (groupPredicates_gains hs queries h).map fun parts =>
      congrArg instants (group_params kind parts)

theorem predicates_gains (hs : Dates scope declared name) : ∀ query : List Clause,
    (∀ field ∈ fields query, field.1 = name → field.2.asksAbsence = false) →
      Gains Predicate.paramsAll (datesRead scope.foldCase name (fields query))
        (predicates scope query) (predicates { scope with schema := declared } query)
  | [], _ => .refl _
  | clause :: rest, h => by
    obtain ⟨hfirst, hrest⟩ := List.forall_mem_append.1 h
    simp only [predicates, fields, datesRead_append]
    refine (clausePredicates_gains hs clause hfirst).both (predicates_gains hs rest hrest) fun ps qs => ?_
    rw [Predicate.paramsAll_append, Datum.instants_append]

theorem groupPredicates_gains (hs : Dates scope declared name) : ∀ queries : List (List Clause),
    (∀ field ∈ groupFields queries, field.1 = name → field.2.asksAbsence = false) →
      Gains Predicate.paramsAll (datesRead scope.foldCase name (groupFields queries))
        (groupPredicates scope queries)
        (groupPredicates { scope with schema := declared } queries)
  | [], _ => .refl _
  | query :: rest, h => by
    obtain ⟨hfirst, hrest⟩ := List.forall_mem_append.1 h
    simp only [groupPredicates, groupFields, datesRead_append]
    refine (predicates_gains hs query hfirst).both (groupPredicates_gains hs rest hrest) fun ps qs => ?_
    rw [Predicate.paramsAll, conjunction_params, Datum.instants_append]

end

end Query

def Schema.declaring (schema : Schema) (name : String) (type : FieldType) : Schema :=
  { schema with fields := Entries.insert schema.fields name type }

theorem Schema.field?_declaring {schema : Schema} {name : String} (type : FieldType)
    (hi : isInjected name = false) (other : String) :
    (schema.declaring name type).toStorage.field? other =
      if name = other then some type else schema.toStorage.field? other := by
  have hplain : (schema.declaring name type).field? other =
      if name = other then some type else schema.field? other := Entries.find?_insert ..
  by_cases ho : isInjected other
  · have hne : name ≠ other := by
      rintro rfl
      exact Bool.false_ne_true (hi.symm.trans ho)
    rw [if_neg hne] at hplain ⊢
    rw [isInjected, Bool.or_eq_true, beq_iff_eq] at ho
    rcases ho with hpermission | rfl
    · rw [field?_toStorage_permission _ hpermission, field?_toStorage_permission _ hpermission]
    · rw [field?_toStorage_password, field?_toStorage_password, hplain]
      rfl
  · have ho := Bool.eq_false_iff.2 ho
    rw [field?_toStorage _ ho, field?_toStorage _ ho, hplain]

namespace Query

/-- The instants that the conditions on a column read if it is declared to hold
dates, texts and relative times, are not read where a table has the column
without a declaration. Without any the declaration says nothing; with some the
results differ, by as many parameters where both compile. -/
theorem compile_declaring_iff {schema : Schema} {name : String} (hd : Schema.isDefaultDate name)
    (hu : schema.field? name = none) (foldCase : Bool) (language : String) (now : Timestamp)
    {query : Json} {q : Query} (hq : ofJson query = .ok q)
    (ha : ∀ field ∈ fields q, field.1 = name → field.2.asksAbsence = false) (first : Nat) :
    let scope : Scope := { schema := schema.toStorage, foldCase, language, now }
    let declared : Scope :=
      { schema := (schema.declaring name .date).toStorage, foldCase, language, now }
    let read := datesRead foldCase name (fields q)
    (read = 0 → compile scope query first = compile declared query first) ∧
    (∀ made, compile declared query first = .ok made →
      (compile scope query first = .ok made ↔ read = 0)) ∧
    ∀ made more, compile scope query first = .ok made → compile declared query first = .ok more →
      instants more.2 = instants made.2 + read := by
  intro scope declared read
  have hplain : Schema.isInjected name = false ∧ Sql.isDotted name = false := by
    simp only [Schema.isDefaultDate, Bool.or_eq_true, beq_iff_eq] at hd
    rcases hd with rfl | rfl
    · decide
    · decide
  obtain ⟨hi, hdotted⟩ := hplain
  have hdates : Dates scope declared.schema name := {
    undotted := hdotted
    missing := (schema.field?_toStorage hi).trans hu
    field? := Schema.field?_declaring .date hi }
  have hgains : Gains Prod.snd read (compile scope query first) (compile declared query first) := by
    rw [compile_eq, compile_eq, hq]
    exact (predicates_gains hdates q ha).map fun _ => rfl
  refine ⟨hgains.same, fun made hmade => ⟨fun hsame => ?_, fun hread => ?_⟩,
    fun made more => hgains.gain⟩
  · have hgain := hgains.gain hsame hmade
    omega
  · rw [hgains.same hread, hmade]

/-- A tagged date is an instant whether or not the column is declared. -/
theorem tagged_date_undeclared :
    let schema : Schema := { className := "Post" }
    let date : Json := .obj [("__type", .str "Date"), ("iso", .str "2020-01-01T00:00:00.000Z")]
    let query : Json := .obj [("createdAt", .obj [("$gte", date), ("$ne", .null)])]
    let q : Query := [.field "createdAt" (.operators [.ne .null, .compare .gte date])]
    (Schema.isDefaultDate "createdAt" ∧ schema.field? "createdAt" = none ∧ ofJson query = .ok q ∧
      ∀ field ∈ fields q, field.1 = "createdAt" → field.2.asksAbsence = false) ∧
    compile (.ofSchema schema ⟨0, 0⟩) query 1 =
      compile (.ofSchema (schema.declaring "createdAt" .date) ⟨0, 0⟩) query 1 := by
  intro schema date query q
  have hq : ofJson query = .ok q := by
    rw [ofJson_single (by decide +kernel)]
    rfl
  have ha : ∀ field ∈ fields q, field.1 = "createdAt" → field.2.asksAbsence = false := by
    intro field hfield _
    cases List.mem_singleton.1 hfield
    rfl
  refine ⟨⟨by decide, rfl, hq, ha⟩, ?_⟩
  exact (compile_declaring_iff (by decide) rfl false "english" ⟨0, 0⟩ hq ha 1).1 rfl

/-- A text and a relative time against the date of creation, which no schema declares. -/
theorem creation_date_undeclared :
    let schema : Schema := { className := "Post" }
    let now : Timestamp := ⟨1704888000, 0⟩
    let compiled (schema : Schema) (bound : Json) :=
      compile (.ofSchema schema now) (.obj [("createdAt", .obj [("$lt", bound)])]) 1
    let text : Json := .str "2020-01-01T00:00:00.000Z"
    let ago : Json := .obj [("$relativeTime", .str "1 day ago")]
    compiled schema text = .ok (⟨"\"createdAt\" < $1", []⟩, [.text "2020-01-01T00:00:00.000Z"]) ∧
    compiled (schema.declaring "createdAt" .date) text =
      .ok (⟨"\"createdAt\" < $1", []⟩, [.timestamp ⟨1577836800, 0⟩]) ∧
    compiled schema ago =
      .error (.invalidQuery "$relativeTime can only be used with Date field") ∧
    compiled (schema.declaring "createdAt" .date) ago =
      .ok (⟨"\"createdAt\" < $1", []⟩, [.timestamp ⟨1704801600, 0⟩]) := by
  have hname : Clause.IsFieldName "createdAt" := by decide +kernel
  dsimp only
  rw [compile_single _ hname, compile_single _ hname, compile_single _ hname, compile_single _ hname]
  exact ⟨by rfl, by rfl, by rfl, by rfl⟩

end Query
end DocSql
