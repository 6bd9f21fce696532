import DocSql.Proofs.Query.Evaluation
import DocSql.Proofs.Storage.Values

/-!
Booleans among the parameters that a column of numbers is compared with. The
engine has no such comparison, so equality binds a number in place of the
boolean; an excluded value, the items of a list and the bounds of a range are
bound as they are. Main statement: `Query.compile_binds_booleans_iff`.
-/
namespace DocSql

open Sql (Expr Filter Formula Predicate)

namespace Sql

def Expr.operands : Expr → List Datum
  | param value => [value]
  | array items => items
  | _ => []

namespace Predicate

mutual

def compared : Predicate → List (Expr × Datum)
  | compare left _ right => right.operands.map (left, ·)
  | isIn e items | notIn e items => items.map (e, ·)
  | nearest distance limit => limit.toList.map (distance, ·)
  | not p | paren p => compared p
  | and ps | or ps => comparedAll ps
  | _ => []

def comparedAll : List Predicate → List (Expr × Datum)
  | [] => []
  | p :: rest => compared p ++ comparedAll rest

end

/-- The column is compared with a boolean parameter. -/
def BindsBoolean (name : String) (p : Predicate) : Prop :=
  ∃ b, (Expr.column name, .bool b) ∈ p.compared

theorem compared_orNull (e : Expr) (p : Predicate) : (orNull e p).compared = p.compared := by
  simp [orNull, compared, comparedAll]

end Predicate
end Sql

namespace Target

variable (scope : Scope) (t : Target)

/-- An expression that is no column of a table but the one of the target. -/
def IsOwn (e : Expr) : Prop := ∀ name, e = .column name → t.name = name

def Compares (p : Predicate) : Prop := ∀ pair ∈ p.compared, t.IsOwn pair.1

theorem column_isOwn : t.IsOwn t.column := by
  intro name h
  unfold column at h
  split at h
  · cases h
  · cases h
    rfl

theorem dottedOperand_isOwn (value : Json) :
    Yields (t.dottedOperand value) fun side => t.IsOwn side.1 := by
  unfold dottedOperand
  dsimp only
  split
  · exact .ok nofun
  · exact .ok nofun
  · exact .ok nofun
  · split
    · exact (Timestamp.ofJson_refuses _).bind fun _ _ => .pure nofun
    · exact (Datum.pointerId_refuses _).bind fun _ _ => .pure nofun
    · exact .ok nofun

theorem sides_isOwn (value : Json) : Yields (t.sides value) fun side => t.IsOwn side.1 := by
  unfold sides
  split
  · exact t.dottedOperand_isOwn value
  · exact (t.operand_refuses value).bind fun _ _ => .pure t.column_isOwn

variable {t}

theorem compares_compare {left right : Expr} {relation : Sql.Relation} (h : t.IsOwn left) :
    t.Compares (.compare left relation right) := by
  intro pair hpair
  obtain ⟨_, -, rfl⟩ := List.mem_map.1 hpair
  exact h

theorem compares_isIn {e : Expr} {items : List Datum} (h : t.IsOwn e) :
    t.Compares (.isIn e items) := by
  intro pair hpair
  obtain ⟨_, -, rfl⟩ := List.mem_map.1 hpair
  exact h

theorem compares_nothing {p : Predicate} (h : p.compared = []) : t.Compares p := by
  intro pair hpair
  rw [h] at hpair
  cases hpair

theorem compares_of_eq {p q : Predicate} (h : p.compared = q.compared) (hq : t.Compares q) :
    t.Compares p := by
  unfold Compares
  rwa [h]

theorem equals_compares (value : Json) : Yields (equals scope t value) t.Compares := by
  unfold equals
  refine (rejectRelativeTime_refuses value).bind fun _ _ => ?_
  dsimp only
  split
  · exact (t.dottedOperand_isOwn value).bind fun side hside => .pure (compares_compare hside)
  · split
    · exact .pure (compares_nothing rfl)
    · have hplain : Yields (do return Predicate.compare t.column .eq (.param (← t.operand value)))
          t.Compares :=
        (t.operand_refuses value).bind fun _ _ => .pure (compares_compare t.column_isOwn)
      split
      · exact .pure (compares_compare t.column_isOwn)
      · split
        · exact .pure (compares_compare nofun)
        · exact hplain
      · exact hplain

theorem differs_compares (value : Json) : Yields (t.differs value) t.Compares := by
  unfold differs
  refine (rejectRelativeTime_refuses value).bind fun _ _ => ?_
  dsimp only
  split
  · exact .pure (compares_nothing rfl)
  · split
    · exact .pure (compares_nothing rfl)
    · split
      · exact (GeoPoint.ofJson_refuses value).bind fun p _ =>
          .pure (compares_of_eq (Predicate.compared_orNull _ _) (compares_compare t.column_isOwn))
      · exact (t.sides_isOwn value).bind fun side hside =>
          .pure (compares_of_eq (Predicate.compared_orNull _ _) (compares_compare hside))

theorem overlaps_compares (items : List Json) : Yields (t.overlaps items) t.Compares := by
  unfold overlaps
  refine Yields.bind (P := fun _ => True) ?_ fun values _ => ?_
  · exact (Yields.mapM fun item _ => Datum.infer_refuses item).neverInternal
  · have hcommon : t.Compares (.compare t.column .overlaps (.array values)) :=
      compares_compare t.column_isOwn
    dsimp only
    split
    · exact .pure (compares_nothing rfl)
    · split
      · exact .pure (compares_of_eq (List.append_nil _) hcommon)
      · exact .pure hcommon

theorem scalarMembership_compares (items : List Json) (negated : Bool) :
    Yields (t.scalarMembership items negated) t.Compares := by
  unfold scalarMembership
  refine Yields.bind (P := fun _ => True) ?_ fun values _ => ?_
  · exact (Yields.mapM fun item _ => t.operand_refuses item).neverInternal
  · have hlisted : t.Compares (.isIn t.column values) := compares_isIn t.column_isOwn
    dsimp only
    split
    · refine .pure ?_
      split
      · exact compares_nothing rfl
      · exact compares_nothing rfl
    · split
      · exact .pure hlisted
      · exact .pure (compares_of_eq (List.append_nil _) hlisted)
      · exact .pure hlisted
      · exact .pure (compares_of_eq (List.append_nil _) hlisted)

theorem membership_compares (items : List Json) (negated : Bool) :
    Yields (t.membership items negated) fun found => ∀ p ∈ found, t.Compares p := by
  unfold membership
  dsimp only
  split
  · split
    · exact .pure nofun
    · refine .pure ?_
      intro p hp
      cases hp
      exact compares_nothing rfl
  · split
    · exact (t.overlaps_compares items).bind fun p hp => .pure (by simpa using hp)
    · split
      · refine .pure ?_
        intro p hp
        cases hp
        split
        · exact compares_nothing rfl
        · exact compares_nothing rfl
      · split
        · refine .pure ?_
          intro p hp
          cases hp
          split
          · exact compares_nothing rfl
          · exact compares_nothing rfl
        · exact (t.scalarMembership_compares _ negated).bind fun p hp => .pure (by simpa using hp)

theorem containsAll_compares (items : List Json) :
    Yields (t.containsAll items) fun found => ∀ p ∈ found, t.Compares p := by
  have htest (function : String) (values : List Json) :
      t.Compares (t.arrayTest function values) := compares_nothing rfl
  have hpointer (id : String) : t.Compares (.compare t.column .eq (.text id)) :=
    compares_compare t.column_isOwn
  unfold containsAll
  split
  · split
    · exact (Pattern.likeStarts_refuses items).bind fun _ _ => .pure (by simpa using htest _ _)
    · exact .pure (by simpa using htest _ _)
  · split
    · exact (Datum.pointerId_refuses _).bind fun id _ => .pure (by simpa using hpointer id)
    · exact .pure nofun

theorem comparison_compares (comparator : Comparator) (value : Json) :
    Yields (comparison scope t comparator value) t.Compares := by
  unfold comparison
  dsimp only
  split
  · exact (t.sides_isOwn value).bind fun side hside => .pure (compares_compare hside)
  · split
    · exact .throw_bind rfl
    · split
      · exact (Timestamp.Relative.resolve_refuses _ _).bind fun instant _ =>
          .pure (compares_compare t.column_isOwn)
      · exact .throw rfl

theorem operator_compares (op : Operator) :
    Yields (operator scope t op) fun found => ∀ p ∈ found, t.Compares p := by
  have htest {p : Predicate} (h : t.Compares p) :
      Yields (.ok (some p)) fun found => ∀ p ∈ found, t.Compares p := .ok (by simpa using h)
  have hsome {work : Except Error Predicate} (h : Yields work t.Compares) :
      Yields (some <$> work) fun found => ∀ p ∈ found, t.Compares p :=
    .map (h.mono fun p hp => by simpa using hp)
  cases op with
  | ne value => exact hsome (differs_compares value)
  | eq value =>
    cases value with
    | null => exact htest (compares_nothing rfl)
    | bool _ | num _ | str _ | arr _ | obj _ => exact hsome (equals_compares scope _)
  | isIn items => exact membership_compares items false
  | notIn items => exact membership_compares items true
  | all items => exact containsAll_compares items
  | present expected =>
    cases expected with
    | false => exact htest (compares_nothing rfl)
    | true => exact htest (compares_nothing rfl)
  | containedBy items => exact htest (compares_nothing rfl)
  | search text => exact htest (compares_nothing rfl)
  | near center limit =>
    refine htest fun pair hpair => ?_
    obtain ⟨_, -, rfl⟩ := List.mem_map.1 hpair
    exact nofun
  | withinSphere center radius => exact htest (compares_compare nofun)
  | withinBox _ _ | withinPolygon _ | covers _ => exact htest (compares_nothing rfl)
  | regex pattern options => exact htest (compares_compare t.column_isOwn)
  | compare comparator value => exact hsome (comparison_compares scope comparator value)

theorem conditions_compare (condition : Condition) :
    Yields (t.conditions scope condition) fun found => ∀ p ∈ found, t.Compares p := by
  have htest {p : Predicate} (h : t.Compares p) : ∀ q ∈ [p], t.Compares q := by simpa using h
  cases condition with
  | null => exact .ok (htest (compares_nothing rfl))
  | scalar value => exact (equals_compares scope value.toJson).bind fun p hp => .pure (htest hp)
  | pointer value =>
    simp only [conditions]
    split
    · exact .pure (htest (compares_nothing rfl))
    · exact (Datum.pointerId_refuses value).bind fun id _ =>
        .pure (htest (compares_compare t.column_isOwn))
  | date instant => exact .ok (htest (compares_compare t.column_isOwn))
  | geoPoint p => exact .ok (htest (compares_compare t.column_isOwn))
  | polygon value =>
    exact (Ring.ofJson_refuses value).bind fun ring _ =>
      .pure (htest (compares_compare t.column_isOwn))
  | operators tests =>
    refine (Yields.mapM fun op _ => operator_compares scope op).bind fun results hall => .pure ?_
    intro p hp
    obtain ⟨found, hfound, hp⟩ := List.mem_filterMap.1 hp
    exact hall found hfound p hp

end Target

namespace Json

def isBoolean : Json → Bool
  | bool _ => true
  | _ => false

end Json

namespace Operator

def bindsBoolean : Operator → Bool
  | ne value | compare _ value => value.isBoolean
  | isIn items | notIn items => (Target.flattened items).any Json.isBoolean
  | _ => false

end Operator

def Condition.bindsBoolean : Condition → Bool
  | operators tests => tests.any Operator.bindsBoolean
  | _ => false

namespace Target

variable (scope : Scope) {name : String}

theorem infer_boolean (value : Json) :
    Yields (Datum.infer value) fun d => (∃ b, d = .bool b) ↔ value.isBoolean := by
  have hother {d : Datum} (h : ∀ b, d ≠ .bool b) : (∃ b, d = .bool b) ↔ false = true :=
    ⟨fun ⟨b, hb⟩ => absurd hb (h b), nofun⟩
  cases value with
  | bool b => exact .ok ⟨fun _ => rfl, fun _ => ⟨b, rfl⟩⟩
  | null | str _ | arr _ => exact .ok (hother nofun)
  | num n =>
    refine .ok (hother ?_)
    unfold Datum.ofJson Datum.ofNumber
    dsimp only
    split
    · exact nofun
    · exact nofun
  | obj members =>
    unfold Datum.infer
    split
    · exact .map ((Timestamp.ofJson_refuses _).mono fun _ _ => hother nofun)
    · exact .map ((Datum.pointerId_refuses _).mono fun _ _ => hother nofun)
    · exact .map ((GeoPoint.ofJson_refuses _).mono fun _ _ => hother nofun)
    · exact .map ((Ring.ofJson_refuses _).mono fun _ _ => hother nofun)
    · exact .map ((Datum.fileName_refuses _).mono fun _ _ => hother nofun)
    · exact .ok (hother nofun)

def numbers (name : String) : Target := ⟨name, some .number⟩

theorem operand_numbers (value : Json) : (numbers name).operand value = Datum.infer value := by
  cases value with
  | _ => rfl

theorem binds_compare {relation : Sql.Relation} {d : Datum} :
    (Predicate.compare (.column name) relation (.param d)).BindsBoolean name ↔
      ∃ b, d = .bool b := by
  simp [Predicate.BindsBoolean, Predicate.compared, Expr.operands, eq_comm]

theorem binds_isIn {values : List Datum} :
    (Predicate.isIn (.column name) values).BindsBoolean name ↔ ∃ b, .bool b ∈ values := by
  simp [Predicate.BindsBoolean, Predicate.compared]

theorem not_binds {p : Predicate} (h : ∀ b, (Expr.column name, .bool b) ∉ p.compared) :
    p.BindsBoolean name ↔ false = true := ⟨fun ⟨b, hb⟩ => absurd hb (h b), nofun⟩

theorem listed_boolean {items : List Json} {values : List Datum}
    (h : List.Forall₂ (fun item d => (∃ b, d = .bool b) ↔ Json.isBoolean item)
      (items.filter (!·.isNull)) values) :
    (∃ b, Datum.bool b ∈ values) ↔ items.any Json.isBoolean := by
  have hfilter : (items.filter (!·.isNull)).any Json.isBoolean = items.any Json.isBoolean := by
    rw [List.any_filter]
    refine congrArg items.any (funext fun item => ?_)
    cases item with
    | _ => rfl
  rw [← hfilter]
  clear hfilter
  generalize items.filter (!·.isNull) = listed at h
  induction h with
  | nil => simp
  | cons hfirst _ ih =>
    rw [List.any_cons, Bool.or_eq_true, ← hfirst]
    simp only [List.mem_cons, exists_or]
    exact or_congr (exists_congr fun b => eq_comm) ih

theorem exists_some {P : Predicate → Prop} {q : Predicate} : (∃ p ∈ some q, P p) ↔ P q := by
  simp

section Numbers

variable (hd : Sql.isDotted name = false)
include hd

theorem column_numbers : (numbers name).column = .column name := column_undotted hd _

theorem equals_numbers (value : Json) :
    Yields (equals scope (numbers name) value) fun p => p.BindsBoolean name ↔ false = true := by
  have hdotted : (numbers name).isDotted = false := hd
  have hplain (hb : value.isBoolean = false) : Yields
      (do return Predicate.compare (.column name) .eq (.param (← (numbers name).operand value)))
      fun p => p.BindsBoolean name ↔ false = true := by
    rw [operand_numbers]
    refine (infer_boolean value).bind fun d h => .pure ?_
    rw [binds_compare, h, hb]
  unfold equals
  rw [column_numbers hd, hdotted]
  refine (rejectRelativeTime_refuses value).bind fun _ _ => ?_
  cases value with
  | bool b => exact .ok (not_binds (by simp [Predicate.compared, Expr.operands, numberMismatch]))
  | str s =>
    change Yields (if scope.foldCase then _ else _) _
    split
    · exact .ok (not_binds (by simp [Predicate.compared]))
    · exact hplain rfl
  | null | num _ | arr _ | obj _ => exact hplain rfl

theorem differs_numbers (value : Json) :
    Yields ((numbers name).differs value) fun p => p.BindsBoolean name ↔ value.isBoolean := by
  have hdotted : (numbers name).isDotted = false := hd
  unfold differs sides
  rw [column_numbers hd, hdotted, operand_numbers]
  refine (rejectRelativeTime_refuses value).bind fun _ _ => ?_
  change Yields (if value.isNull then _ else _) _
  split
  next hn =>
    cases value with
    | null => exact .pure (not_binds (by simp [Predicate.compared]))
    | bool _ | num _ | str _ | arr _ | obj _ => cases hn
  next =>
    split
    next htag =>
      obtain ⟨members, rfl⟩ := Json.obj_of_typeTag? htag
      refine (GeoPoint.ofJson_refuses _).bind fun p _ => .pure (not_binds ?_)
      simp [Predicate.compared_orNull, Predicate.compared, Expr.operands, Expr.point]
    next =>
      simp only [Bool.false_eq_true, if_false, bind_assoc]
      refine (infer_boolean value).bind fun d h => .pure ?_
      rw [Predicate.BindsBoolean, Predicate.compared_orNull, ← h]
      exact binds_compare

theorem scalarMembership_numbers (items : List Json) (negated : Bool) :
    Yields ((numbers name).scalarMembership items negated) fun p =>
      p.BindsBoolean name ↔ items.any Json.isBoolean := by
  have hoperand : (numbers name).operand = Datum.infer := funext operand_numbers
  unfold scalarMembership
  rw [column_numbers hd, hoperand]
  refine (Yields.mapM_forall₂ fun item _ => infer_boolean item).bind fun values hvalues => ?_
  have hlisted := listed_boolean hvalues
  have hempty : values = [] → (items.any Json.isBoolean = false) := by
    rintro rfl
    simpa using hlisted
  dsimp only
  split
  next hnone =>
    rw [hempty (List.isEmpty_iff.1 hnone)]
    refine .pure ?_
    split
    · exact not_binds (by simp [Predicate.compared])
    · exact not_binds (by simp [Predicate.compared])
  next =>
    rw [← hlisted, ← @binds_isIn name]
    split
    · exact .pure .rfl
    · exact .pure (by simp [Predicate.BindsBoolean, Predicate.compared, Predicate.comparedAll])
    · exact .pure .rfl
    · exact .pure (by simp [Predicate.BindsBoolean, Predicate.compared, Predicate.comparedAll])

theorem membership_numbers (items : List Json) (negated : Bool) :
    Yields ((numbers name).membership items negated) fun found =>
      (∃ p ∈ found, p.BindsBoolean name) ↔ (flattened items).any Json.isBoolean := by
  have hdotted : (numbers name).isDotted = false := hd
  have hnull : (Predicate.isNull (numbers name).column).BindsBoolean name ↔ false = true :=
    not_binds (by simp [Predicate.compared])
  have halways : Predicate.always.BindsBoolean name ↔ false = true :=
    not_binds (by simp [Predicate.compared])
  unfold membership
  rw [hdotted]
  change Yields (if (flattened items).isEmpty then _ else _) _
  split
  next hempty =>
    rw [List.isEmpty_iff.1 hempty]
    refine .pure (exists_some.trans ?_)
    split
    · exact halways
    · exact hnull
  next =>
    exact (scalarMembership_numbers hd (flattened items) negated).bind fun p hp =>
      .pure (exists_some.trans hp)

omit hd in
theorem containsAll_numbers (items : List Json) :
    Yields ((numbers name).containsAll items) fun found =>
      (∃ p ∈ found, p.BindsBoolean name) ↔ false = true := by
  have harray : (numbers name).isArray = false := rfl
  unfold containsAll
  rw [harray, if_neg Bool.false_ne_true]
  split
  · refine (Datum.pointerId_refuses _).bind fun id _ => .pure (exists_some.trans (not_binds ?_))
    simp [Predicate.compared, Expr.operands, Expr.text]
  · exact .ok (by simp)

theorem comparison_numbers (comparator : Comparator) (value : Json) :
    Yields (comparison scope (numbers name) comparator value) fun p =>
      p.BindsBoolean name ↔ value.isBoolean := by
  have hdotted : (numbers name).isDotted = false := hd
  unfold comparison sides
  rw [column_numbers hd, hdotted, operand_numbers]
  dsimp only
  split
  · simp only [Bool.false_eq_true, if_false, bind_assoc]
    refine (infer_boolean value).bind fun d h => .pure ?_
    rw [← h]
    exact binds_compare
  · exact .throw_bind rfl

theorem operator_numbers (op : Operator) :
    Yields (operator scope (numbers name) op) fun found =>
      (∃ p ∈ found, p.BindsBoolean name) ↔ op.bindsBoolean := by
  have hsome {work : Except Error Predicate} {flag : Bool}
      (h : Yields work fun p => p.BindsBoolean name ↔ flag = true) :
      Yields (some <$> work) fun found => (∃ p ∈ found, p.BindsBoolean name) ↔ flag = true :=
    .map (h.mono fun p hp => exists_some.trans hp)
  have htest {p : Predicate} (h : ∀ b, (Expr.column name, .bool b) ∉ p.compared) :
      Yields (.ok (some p)) fun found => (∃ q ∈ found, q.BindsBoolean name) ↔ false = true :=
    .ok (exists_some.trans (not_binds h))
  cases op with
  | ne value => exact hsome (differs_numbers hd value)
  | eq value =>
    cases value with
    | null => exact htest (by simp [Predicate.compared])
    | bool _ | num _ | str _ | arr _ | obj _ => exact hsome (equals_numbers scope hd _)
  | isIn items => exact membership_numbers hd items false
  | notIn items => exact membership_numbers hd items true
  | all items => exact containsAll_numbers items
  | present expected =>
    cases expected with
    | false | true => exact htest (by simp [Predicate.compared])
  | compare comparator value => exact hsome (comparison_numbers scope hd comparator value)
  | near center limit | withinSphere center limit =>
    exact htest (by simp [Predicate.compared, distance, Expr.operands])
  | containedBy _ | search _ | withinBox _ _ | withinPolygon _ | covers _ | regex _ _ =>
    exact htest (by simp [Predicate.compared, Expr.operands, Expr.text, Expr.json, Expr.polygon,
      searches, matchesPattern])

theorem conditions_numbers (condition : Condition) :
    Yields ((numbers name).conditions scope condition) fun found =>
      (∃ p ∈ found, p.BindsBoolean name) ↔ condition.bindsBoolean := by
  have hcolumn := column_numbers hd
  have hsingle (p : Predicate) : (∃ q ∈ [p], q.BindsBoolean name) ↔ p.BindsBoolean name := by
    simp
  have htest {p : Predicate} (h : ∀ b, (Expr.column name, .bool b) ∉ p.compared) :
      (∃ q ∈ [p], q.BindsBoolean name) ↔ false = true := (hsingle p).trans (not_binds h)
  cases condition with
  | null => exact .ok (htest (by simp [Predicate.compared]))
  | scalar value =>
    exact (equals_numbers scope hd value.toJson).bind fun p hp => .pure ((hsingle p).trans hp)
  | pointer value =>
    refine (Datum.pointerId_refuses value).bind fun id _ => .pure (htest ?_)
    simp [Predicate.compared, Expr.operands, Expr.text]
  | date instant | geoPoint p =>
    exact .ok (htest (by simp [Predicate.compared, Expr.operands, Expr.point]))
  | polygon value =>
    refine (Ring.ofJson_refuses value).bind fun ring _ => .pure (htest ?_)
    simp [Predicate.compared, Expr.operands, Expr.polygon]
  | operators tests =>
    refine (Yields.mapM_forall₂ fun op _ => operator_numbers scope hd op).bind
      fun results hall => .pure ?_
    rw [Condition.bindsBoolean]
    induction hall with
    | nil => simp
    | @cons op found tests results hfirst _ ih =>
      rw [List.any_cons, Bool.or_eq_true, ← hfirst, ← ih]
      cases found with
      | none => simp
      | some p => simp

end Numbers

theorem fires_of_bindsBoolean (hd : Sql.isDotted name = false) {condition : Condition}
    (h : condition.bindsBoolean) : (numbers name).fires condition := by
  cases condition with
  | operators tests =>
    obtain ⟨op, hop, hbinds⟩ := List.any_eq_true.1 h
    refine List.any_eq_true.2 ⟨op, hop, ?_⟩
    have hdotted : (numbers name).isDotted = false := hd
    cases op with
    | ne _ | isIn _ | compare _ _ => rfl
    | notIn _ => rw [produces, hdotted, Bool.not_false]
    | _ => cases hbinds
  | _ => cases h

end Target

def Scope.IsNumberColumn (scope : Scope) (name : String) : Prop :=
  scope.schema.field? name = some .number ∧ Sql.isDotted name = false

namespace Query

variable (scope : Scope)

theorem target_of_mem_parts {query : Query} {part : Target × Condition}
    (h : part ∈ parts scope query) : part.1 = scope.target part.1.name := by
  obtain ⟨field, -, hpart⟩ := List.mem_flatMap.1 h
  unfold Scope.parts at hpart
  split at hpart
  · cases hpart
  · obtain ⟨_, -, rfl⟩ := List.mem_map.1 hpart
    rfl

theorem target_of_numbers {name : String} (h : scope.IsNumberColumn name) :
    scope.target name = Target.numbers name := congrArg (Target.mk name) h.1

theorem Shown.exists_leaf {scope : Scope} {tests : List (Target × Condition)}
    {leaves : List Predicate} (h : Shown scope tests leaves) {part : Target × Condition}
    (hp : part ∈ tests) (hf : part.1.fires part.2) : ∃ p ∈ leaves, Target.Gives scope part p := by
  have hfires : part ∈ tests.filter fun part => part.1.fires part.2 := List.mem_filter.2 ⟨hp, hf⟩
  unfold Shown at h
  obtain ⟨i, hi, hpart⟩ := List.getElem_of_mem hfires
  have hlength : i < leaves.length := h.length_eq ▸ hi
  refine ⟨leaves[i], List.getElem_mem hlength, ?_⟩
  have hgives := h.get hi hlength
  rw [List.get_eq_getElem, hpart] at hgives
  exact hgives

theorem Shown.binds_iff {query : Query} {leaves : List Predicate}
    (h : Shown scope (parts scope query) leaves) :
    (∃ name, scope.IsNumberColumn name ∧ ∃ p ∈ leaves, p.BindsBoolean name) ↔
      ∃ part ∈ parts scope query,
        scope.IsNumberColumn part.1.name ∧ part.2.bindsBoolean := by
  constructor
  · rintro ⟨name, hname, p, hp, b, hb⟩
    obtain ⟨part, hpart, hgives⟩ := h.exists_test hp
    have hown := (Target.conditions_compare scope (t := part.1) part.2).result hgives
    have heq : part.1.name = name := hown p (List.mem_singleton_self p) _ hb name rfl
    have htarget : part.1 = Target.numbers name := by
      rw [target_of_mem_parts scope hpart, heq, target_of_numbers scope hname]
    rw [Target.Gives, htarget] at hgives
    refine ⟨part, hpart, heq ▸ hname, ?_⟩
    exact ((Target.conditions_numbers scope hname.2 part.2).result hgives).1
      ⟨p, List.mem_singleton_self p, b, hb⟩
  · rintro ⟨part, hpart, hname, hbinds⟩
    have htarget : part.1 = Target.numbers part.1.name :=
      (target_of_mem_parts scope hpart).trans (target_of_numbers scope hname)
    have hfires : part.1.fires part.2 := by
      rw [htarget]
      exact Target.fires_of_bindsBoolean hname.2 hbinds
    obtain ⟨p, hp, hgives⟩ := h.exists_leaf hpart hfires
    rw [Target.Gives, htarget] at hgives
    obtain ⟨q, hq, hb⟩ := ((Target.conditions_numbers scope hname.2 part.2).result hgives).2 hbinds
    rw [List.mem_singleton.1 hq] at hb
    exact ⟨part.1.name, hname, p, hp, hb⟩

/-- A boolean is bound for a column of numbers just where it is excluded, listed
or the bound of a range there, in groups and outside them. Where a query compiles
a bare boolean and `$eq` have bound a number for it. -/
theorem compile_binds_booleans_iff (query : Json) (first : Nat) :
    Yields (compile scope query first) fun (filter, params) =>
      ∃ q asked, ofJson query = .ok q ∧ tree scope q = .ok asked ∧
        params = Predicate.paramsAll asked.leaves ∧
        (∃ f : Formula String, Sql.read filter.pattern = f.bind Sql.read ∧
          f.Agrees (asked.placed (max first 1))) ∧
        Shown scope (parts scope q) asked.leaves ∧
        ((∃ name, scope.IsNumberColumn name ∧ ∃ p ∈ asked.leaves, p.BindsBoolean name) ↔
          ∃ part ∈ parts scope q,
            scope.IsNumberColumn part.1.name ∧ part.2.bindsBoolean) := by
  refine (compile_yields scope query first).mono fun (filter, params) h => ?_
  obtain ⟨q, hq, hfilter⟩ := h
  obtain ⟨asked, hasked, hparams, hreads⟩ := hfilter.asks ((ofJson_yields query).result hq)
  have hshown := (query_shows scope q).result hasked
  exact ⟨q, asked, hq, hasked, hparams, hreads, hshown, hshown.binds_iff scope⟩

/-- A bare boolean has a number in its place, and an excluded one is bound as it is. -/
theorem excluded_boolean_bound :
    compile .posts (.obj [("stock", .bool true)]) 1 =
        .ok (⟨"\"stock\" = $1", []⟩, [Target.numberMismatch]) ∧
      compile .posts (.obj [("stock", .obj [("$ne", .bool true)])]) 1 =
        .ok (⟨"(\"stock\" <> $1 OR \"stock\" IS NULL)", []⟩, [.bool true]) := by
  constructor
  · rw [compile_single _ (by decide +kernel)]
    rfl
  · rw [compile_single _ (by decide +kernel)]
    rfl

end Query
end DocSql
