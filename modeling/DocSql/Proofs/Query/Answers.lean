import DocSql.Proofs.Query.Evaluation

/-!
Which tests of a query have an answer in a row. Most of them compare the value
in the column or at the path, and have none where it is missing; some say what
they mean by a missing value, and a list test takes it for an empty list.
-/
namespace DocSql

open Sql (Expr Filter Formula Predicate Relation Selects Truth Valuation)

variable {V : Type} (M : Valuation V)

namespace Target

variable (scope : Scope) (t : Target)

def isMissing : Bool := (t.column.value M).isNone

def listsValues (items : List Json) : Bool := !items.isEmpty && !items.any Json.isNull

/-- Whether a test has no answer in the row. -/
def leavesOpen : Operator → Bool
  | .ne _ | .eq .null | .present _ | .near _ none => false
  | .eq value => (t.isDotted || !t.isArray || value.arr?.isSome) && t.isMissing M
  | .isIn items =>
    if t.isDotted then (M.path t.name).isNone
    else if t.isTextArray then listsValues items && t.isMissing M
    else !t.isArray && listsValues (flattened items) && t.isMissing M
  | .notIn items =>
    !t.isDotted && !t.isArray && listsValues (flattened items) && t.isMissing M
  | .all items => !t.isArray && items.length == 1 && t.isMissing M
  | .compare _ .null => !t.isDotted || t.isMissing M
  | _ => t.isMissing M

def conditionOpen : Condition → Bool
  | .null => false
  | .scalar value => t.leavesOpen M (.eq value.toJson)
  | .pointer _ => !t.isArray && t.isMissing M
  | .date _ | .geoPoint _ | .polygon _ => t.isMissing M
  | .operators tests => tests.any (t.leavesOpen M)

end Target

/-- The condition has no answer in the row just where the flag is set. -/
def Sql.Predicate.UnknownIf (p : Predicate) (flag : Bool) : Prop := p.truth M = .unknown ↔ flag

variable {M} {t : Target}

namespace Sql.Expr

theorem value_apply {function : String} (hf : function ∈ strictFunctions) {e : Expr} :
    (apply function e).value M = none ↔ e.value M = none := by
  rw [value, M.call_strict function hf, List.mem_singleton, eq_comm]

theorem value_apply₂ {function : String} (hf : function ∈ strictFunctions) {a b : Expr} :
    (apply₂ function a b).value M = none ↔ a.value M = none ∨ b.value M = none := by
  rw [value, M.call_strict function hf, List.mem_cons, List.mem_singleton, eq_comm,
    eq_comm (b := b.value M)]

theorem value_cast {e : Expr} {type : String} :
    (cast e type).value M = none ↔ e.value M = none := by
  rw [value, Option.map_eq_none_iff]

theorem value_param {d : Datum} : (param d).value M = none ↔ d.isNull := by
  rw [value, Valuation.datum?]
  cases d.isNull <;> simp

theorem value_text (text : String) : (Expr.text text).value M ≠ none := by
  simp [Expr.text, value_param, Datum.isNull]

theorem value_point (p : Point) : (point p).value M ≠ none := by
  rw [point, ne_eq, value_apply₂ (by decide), value_param, value_param]
  simp [Datum.isNull]

theorem value_json (value : Json) : (json value).value M ≠ none := by
  rw [json, ne_eq, value_cast, value_param]
  simp [Datum.isNull]

end Sql.Expr

namespace Sql.Predicate

theorem unknownIf_isNull (e : Expr) : (isNull e).UnknownIf M false := by
  simp [UnknownIf, truth]

theorem unknownIf_isNotNull (e : Expr) : (isNotNull e).UnknownIf M false := by
  simp [UnknownIf, truth]

theorem UnknownIf.not {p : Predicate} {flag : Bool} (h : p.UnknownIf M flag) :
    (Predicate.not p).UnknownIf M flag := by
  rw [UnknownIf, truth, Truth.not_eq_unknown]
  exact h

theorem unknownIf_compare {left right : Expr} {relation : Relation} {flag : Bool}
    (hl : left.value M = none ↔ flag) (hr : right.value M ≠ none) :
    (compare left relation right).UnknownIf M flag := by
  rw [UnknownIf, truth, Valuation.compare_eq_unknown, or_iff_left hr]
  exact hl

theorem unknownIf_nullOr {p : Predicate} {e : Expr} (h : p.UnknownIf M (e.value M).isNone) :
    (paren (.or [.isNull e, p])).UnknownIf M false := by
  rw [UnknownIf] at h
  simp only [UnknownIf, truth, truths, Truth.any_cons]
  cases he : e.value M with
  | none => simp [Truth.ofBool, Truth.or]
  | some x =>
    have hp : p.truth M ≠ .unknown := by simp [h, he]
    cases hv : p.truth M <;> simp_all [Truth.ofBool, Truth.or, Truth.any]

theorem unknownIf_valueAnd {p : Predicate} {e : Expr} (h : p.UnknownIf M (e.value M).isNone) :
    (paren (.and [.isNotNull e, p])).UnknownIf M false := by
  rw [UnknownIf] at h
  simp only [UnknownIf, truth, truths, Truth.all_cons]
  cases he : e.value M with
  | none => simp [Truth.ofBool, Truth.and]
  | some x =>
    have hp : p.truth M ≠ .unknown := by simp [h, he]
    cases hv : p.truth M <;> simp_all [Truth.ofBool, Truth.and, Truth.all]

theorem unknownIf_orNull {e right : Expr} {relation : Relation} (hr : right.value M ≠ none) :
    (orNull e (compare e relation right)).UnknownIf M false := by
  have hcompare : (compare e relation right).UnknownIf M (e.value M).isNone :=
    unknownIf_compare Option.isNone_iff_eq_none.symm hr
  have hswapped := unknownIf_nullOr hcompare
  simp only [UnknownIf, orNull, truth, truths] at hswapped ⊢
  rw [Truth.any_pair_comm]
  exact hswapped

theorem unknownIf_isIn {e : Expr} {values : List Datum} (hne : values ≠ [])
    (hv : ∀ d ∈ values, d.isNull = false) :
    (isIn e values).UnknownIf M (e.value M).isNone := by
  have hvalue : ∀ d ∈ values, M.datum? d ≠ none := by
    intro d hd
    simp [Valuation.datum?, hv d hd]
  rw [UnknownIf, truth]
  cases he : e.value M with
  | none =>
    refine iff_of_true (Truth.any_eq_unknown (by simpa using hne) ?_) rfl
    exact List.forall_mem_map.2 fun d _ => Valuation.compare_eq_unknown.2 (.inl rfl)
  | some x =>
    refine iff_of_false (Truth.any_ne_unknown ?_) (by simp)
    refine List.forall_mem_map.2 fun d hd hunknown => ?_
    exact (Valuation.compare_eq_unknown.1 hunknown).elim (by simp) (hvalue d hd)

theorem unknownIf_notIn {e : Expr} {values : List Datum} (hne : values ≠ [])
    (hv : ∀ d ∈ values, d.isNull = false) :
    (notIn e values).UnknownIf M (e.value M).isNone := by
  have hisIn := unknownIf_isIn (M := M) (e := e) hne hv
  simp only [UnknownIf, truth, Truth.not_eq_unknown] at hisIn ⊢
  exact hisIn

end Sql.Predicate

namespace Target

variable (scope : Scope)

theorem column_missing : t.column.value M = none ↔ t.isMissing M :=
  Option.isNone_iff_eq_none.symm

theorem infer_isNull (value : Json) :
    Yields (Datum.infer value) fun d => d.isNull = value.isNull := by
  cases value with
  | null | bool _ | str _ | arr _ => exact .ok rfl
  | num n =>
    refine .ok ?_
    unfold Datum.ofJson Datum.ofNumber
    dsimp only
    split
    · rfl
    · rfl
  | obj members =>
    unfold Datum.infer
    split
    · exact .map ((Timestamp.ofJson_refuses _).mono fun _ _ => rfl)
    · exact .map ((Datum.pointerId_refuses _).mono fun _ _ => rfl)
    · exact .map ((GeoPoint.ofJson_refuses _).mono fun _ _ => rfl)
    · exact .map ((Ring.ofJson_refuses _).mono fun _ _ => rfl)
    · exact .map ((Datum.fileName_refuses _).mono fun _ _ => rfl)
    · exact .ok rfl

theorem operand_isNull (value : Json) :
    Yields (t.operand value) fun d => d.isNull = value.isNull := by
  unfold operand
  split
  · exact .map ((Timestamp.ofJson_refuses _).mono fun _ _ => rfl)
  · exact infer_isNull _
  next other _ _ _ _ hvalue =>
    refine .map ((Datum.pointerId_refuses _).mono fun _ _ => ?_)
    cases other with
    | null => exact absurd rfl hvalue
    | bool _ | num _ | str _ | arr _ | obj _ => rfl
  · exact infer_isNull _

variable (M)

/-- Text at a path stands for every value, null among them. -/
theorem dottedOperand_answers (hd : t.isDotted) (value : Json) :
    Yields (t.dottedOperand value) fun side =>
      (side.1.value M = none ↔ t.isMissing M) ∧ side.2.isNull = false := by
  have htext : (Expr.textAt t.name).value M = none ↔ t.isMissing M := by
    rw [← column_missing, column, if_pos hd]
  have hcast (type : String) :
      ((Expr.textAt t.name).castAs type).value M = none ↔ t.isMissing M := by
    rw [Expr.value, Option.map_eq_none_iff]
    exact htext
  unfold dottedOperand
  dsimp only
  split
  next n =>
    refine .ok ⟨hcast _, ?_⟩
    unfold Datum.ofNumber
    split
    · rfl
    · rfl
  · exact .ok ⟨hcast _, rfl⟩
  · exact .ok ⟨htext, rfl⟩
  · split
    · exact (Timestamp.ofJson_refuses _).bind fun _ _ => .pure ⟨htext, rfl⟩
    · exact (Datum.pointerId_refuses _).bind fun _ _ => .pure ⟨htext, rfl⟩
    · exact .ok ⟨htext, rfl⟩

theorem sides_answer (value : Json) : Yields (t.sides value) fun side =>
    (side.1.value M = none ↔ t.isMissing M) ∧ side.2.isNull = (!t.isDotted && value.isNull) := by
  unfold sides
  split
  next hd =>
    rw [hd]
    exact dottedOperand_answers M hd value
  next hd =>
    rw [Bool.eq_false_iff.2 hd]
    exact (operand_isNull value).bind fun d h => .pure ⟨column_missing, h⟩

theorem arrayTest_answers {function : String} (hf : function ∈ Sql.listTests)
    (items : List Json) : (t.arrayTest function items).UnknownIf M false := by
  obtain ⟨values, hvalues⟩ := Option.ne_none_iff_exists'.1 (Expr.value_json (M := M) (.arr items))
  have hcall := M.call_listTest function hf (t.arrayColumn.value M) values
  rw [← hvalues] at hcall
  obtain ⟨x, hx⟩ := Option.ne_none_iff_exists'.1 hcall
  simp [Predicate.UnknownIf, arrayTest, Predicate.truth, Expr.value, hx]

theorem leavesOpen_eq {value : Json} (h : value.isNull = false) : t.leavesOpen M (.eq value) =
    ((t.isDotted || !t.isArray || value.arr?.isSome) && t.isMissing M) := by
  cases value with
  | null => cases h
  | bool _ | num _ | str _ | arr _ | obj _ => rfl

theorem equals_answers {value : Json} (hn : value.isNull = false) :
    Yields (equals scope t value) fun p => p.UnknownIf M (t.leavesOpen M (.eq value)) := by
  have hlower (e : Expr) : (Expr.apply "LOWER" e).value M = none ↔ e.value M = none :=
    Expr.value_apply (by decide)
  rw [leavesOpen_eq M hn]
  unfold equals
  refine (rejectRelativeTime_refuses value).bind fun _ _ => ?_
  dsimp only
  split
  next hd =>
    refine (dottedOperand_answers M hd value).bind fun side hside => .pure ?_
    simp only [hd, Bool.true_or, Bool.true_and]
    exact Predicate.unknownIf_compare hside.1 (by simp [Expr.value_param, hside.2])
  next hd =>
    split
    next ha =>
      obtain ⟨harray, hlist⟩ := Bool.and_eq_true_iff.1 ha
      have hclosed : (t.isDotted || !t.isArray || value.arr?.isSome) = false := by
        simp_all
      rw [hclosed, Bool.false_and]
      exact .pure (arrayTest_answers M (by decide) [value])
    next ha =>
      have hopen : (t.isDotted || !t.isArray || value.arr?.isSome) = true := by
        cases h : value.arr? <;> simp_all
      rw [hopen, Bool.true_and]
      have hplain : Yields (do return Predicate.compare t.column .eq (.param (← t.operand value)))
          fun p => p.UnknownIf M (t.isMissing M) := by
        refine (operand_isNull value).bind fun d hd => .pure ?_
        exact Predicate.unknownIf_compare column_missing (by simp [Expr.value_param, hd, hn])
      split
      · exact .pure (Predicate.unknownIf_compare column_missing
          (by simp [Expr.value_param, numberMismatch, Datum.isNull]))
      · split
        · refine .pure (Predicate.unknownIf_compare ((hlower _).trans column_missing) ?_)
          rw [ne_eq, hlower]
          exact Expr.value_text _
        · exact hplain
      · exact hplain

theorem differs_answers (value : Json) :
    Yields (t.differs value) fun p => p.UnknownIf M false := by
  unfold differs
  refine (rejectRelativeTime_refuses value).bind fun _ _ => ?_
  dsimp only
  split
  · exact .pure (arrayTest_answers M (by decide) [value]).not
  · split
    · exact .pure (Predicate.unknownIf_isNotNull _)
    next hn =>
      split
      · refine (GeoPoint.ofJson_refuses value).bind fun p _ => .pure ?_
        exact Predicate.unknownIf_orNull (Expr.value_point _)
      · refine (sides_answer M value).bind fun side hside => .pure ?_
        exact Predicate.unknownIf_orNull (by simp [Expr.value_param, hside.2, hn])

theorem listsValues_iff (items : List Json) : listsValues items =
    (!(items.filter (!·.isNull)).isEmpty && !items.any Json.isNull) := by
  unfold listsValues
  cases items with
  | nil => rfl
  | cons item rest => cases h : item.isNull <;> simp [h]

theorem mapM_operands {encode : Json → Except Error Datum}
    (h : ∀ item, Yields (encode item) fun d => d.isNull = item.isNull) (items : List Json) :
    Yields ((items.filter (!·.isNull)).mapM encode) fun values =>
      values.isEmpty = (items.filter (!·.isNull)).isEmpty ∧ ∀ d ∈ values, d.isNull = false := by
  refine (Yields.mapM_forall₂ fun item _ => h item).mono fun values hvalues => ?_
  have hnull : ∀ item ∈ items.filter (!·.isNull), item.isNull = false := by simp
  generalize items.filter (!·.isNull) = listed at hvalues hnull
  refine ⟨?_, ?_⟩
  · cases hvalues with
    | nil => rfl
    | cons => rfl
  · induction hvalues with
    | nil => simp
    | cons hfirst _ ih =>
      rw [List.forall_mem_cons] at hnull ⊢
      exact ⟨hfirst.trans hnull.1, ih hnull.2⟩

theorem overlaps_answers (items : List Json) : Yields (t.overlaps items) fun p =>
    p.UnknownIf M (listsValues items && t.isMissing M) := by
  rw [listsValues_iff]
  unfold overlaps
  refine (mapM_operands infer_isNull items).bind fun values hvalues => ?_
  dsimp only
  have hcommon : (Predicate.compare t.column .overlaps (.array values)).UnknownIf M
      (t.isMissing M) := Predicate.unknownIf_compare column_missing (by simp [Expr.value])
  rw [← hvalues.1]
  split
  next hempty =>
    rw [hempty]
    exact .pure (Predicate.unknownIf_isNull _)
  next hempty =>
    rw [Bool.eq_false_iff.2 hempty]
    split
    next hnull =>
      rw [hnull]
      exact .pure (Predicate.unknownIf_nullOr hcommon)
    next hnull =>
      rw [Bool.eq_false_iff.2 hnull]
      exact .pure hcommon

theorem scalarMembership_answers (items : List Json) (negated : Bool) :
    Yields (t.scalarMembership items negated) fun p =>
      p.UnknownIf M (listsValues items && t.isMissing M) := by
  rw [listsValues_iff]
  unfold scalarMembership
  refine (mapM_operands operand_isNull items).bind fun values hvalues => ?_
  dsimp only
  rw [← hvalues.1]
  split
  next hempty =>
    rw [hempty]
    refine .pure ?_
    split
    · exact Predicate.unknownIf_isNotNull _
    · exact Predicate.unknownIf_isNull _
  next hempty =>
    have hne : values ≠ [] := by simpa using hempty
    have hisIn := Predicate.unknownIf_isIn (M := M) (e := t.column) hne hvalues.2
    have hnotIn := Predicate.unknownIf_notIn (M := M) (e := t.column) hne hvalues.2
    rw [Bool.eq_false_iff.2 hempty]
    split
    next hnull =>
      rw [hnull]
      exact .pure hisIn
    next hnull =>
      rw [hnull]
      exact .pure (Predicate.unknownIf_nullOr hisIn)
    next hnull =>
      rw [hnull]
      exact .pure hnotIn
    next hnull =>
      rw [hnull]
      exact .pure (Predicate.unknownIf_valueAnd hnotIn)

def FoundUnknownIf (found : List Predicate) (flag : Bool) : Prop :=
  (∃ p ∈ found, p.truth M = .unknown) ↔ flag

variable {M} in
theorem foundUnknownIf_single {p : Predicate} {flag : Bool} (h : p.UnknownIf M flag) :
    FoundUnknownIf M [p] flag := by
  rw [Predicate.UnknownIf] at h
  simpa [FoundUnknownIf] using h

variable {M} in
theorem foundUnknownIf_append {found more : List Predicate} {flag other : Bool}
    (h : FoundUnknownIf M found flag) (hm : FoundUnknownIf M more other) :
    FoundUnknownIf M (found ++ more) (flag || other) := by
  rw [FoundUnknownIf] at h hm ⊢
  rw [Bool.or_eq_true, ← h, ← hm]
  simp only [List.mem_append, or_and_right, exists_or]

theorem foundUnknownIf_nil : FoundUnknownIf M [] false := by
  simp [FoundUnknownIf]

theorem isIn_operator_answers (items : List Json) : Yields (t.membership items false) fun found =>
    FoundUnknownIf M found.toList (t.leavesOpen M (.isIn items)) := by
  unfold membership
  dsimp only [leavesOpen]
  split
  next hd =>
    refine .pure (foundUnknownIf_single (Predicate.unknownIf_compare ?_ (Expr.value_json _)))
    rw [Expr.value_cast, Expr.value, Expr.value, Option.isNone_iff_eq_none]
  next hd =>
    simp only [Bool.not_false, Bool.and_true, Bool.false_eq_true, if_false]
    split
    next htext =>
      exact (overlaps_answers M items).bind fun p hp => .pure (foundUnknownIf_single hp)
    next htext =>
      split
      next hempty =>
        rw [List.isEmpty_iff.1 hempty]
        refine .pure (foundUnknownIf_single ?_)
        simpa [listsValues] using Predicate.unknownIf_isNull _
      next hempty =>
        split
        next ha =>
          rw [ha]
          exact .pure (foundUnknownIf_single (arrayTest_answers M (by decide) _))
        next ha =>
          rw [Bool.eq_false_iff.2 ha]
          exact (scalarMembership_answers M (flattened items) false).bind fun p hp =>
            .pure (foundUnknownIf_single hp)

theorem notIn_operator_answers (items : List Json) : Yields (t.membership items true) fun found =>
    FoundUnknownIf M found.toList (t.leavesOpen M (.notIn items)) := by
  unfold membership
  dsimp only [leavesOpen]
  split
  next hd =>
    rw [hd]
    exact .pure (foundUnknownIf_nil M)
  next hd =>
    rw [Bool.eq_false_iff.2 hd]
    simp only [Bool.not_true, Bool.and_false, Bool.false_eq_true, if_false, if_true]
    split
    next hempty =>
      rw [List.isEmpty_iff.1 hempty]
      refine .pure (foundUnknownIf_single ?_)
      simp [Predicate.UnknownIf, Predicate.truth, listsValues]
    next hempty =>
      split
      next ha =>
        rw [ha]
        exact .pure (foundUnknownIf_single (arrayTest_answers M (by decide) _).not)
      next ha =>
        rw [Bool.eq_false_iff.2 ha]
        exact (scalarMembership_answers M (flattened items) true).bind fun p hp =>
          .pure (foundUnknownIf_single hp)

theorem containsAll_answers (items : List Json) : Yields (t.containsAll items) fun found =>
    FoundUnknownIf M found.toList (t.leavesOpen M (.all items)) := by
  unfold containsAll
  dsimp only [leavesOpen]
  split
  next ha =>
    rw [ha]
    split
    · exact (Pattern.likeStarts_refuses items).bind fun _ _ =>
        .pure (foundUnknownIf_single (arrayTest_answers M (by decide) _))
    · exact .pure (foundUnknownIf_single (arrayTest_answers M (by decide) _))
  next ha =>
    rw [Bool.eq_false_iff.2 ha]
    split
    next single =>
      refine (Datum.pointerId_refuses single).bind fun id _ =>
        .pure (foundUnknownIf_single ?_)
      exact Predicate.unknownIf_compare column_missing (Expr.value_text id)
    next hmany =>
      refine .pure ?_
      have hlength : (items.length == 1) = false := by
        rw [beq_eq_false_iff_ne]
        intro h
        obtain ⟨single, hsingle⟩ := List.length_eq_one_iff.1 h
        exact hmany single hsingle
      rw [hlength, Bool.and_false, Bool.false_and]
      exact foundUnknownIf_nil M

theorem comparison_answers (comparator : Comparator) (value : Json) :
    Yields (comparison scope t comparator value) fun p =>
      p.UnknownIf M (t.leavesOpen M (.compare comparator value)) := by
  have hplain (hn : value.isNull = false) : t.leavesOpen M (.compare comparator value) =
      t.isMissing M := by
    cases value with
    | null => cases hn
    | bool _ | num _ | str _ | arr _ | obj _ => rfl
  unfold comparison
  dsimp only
  split
  next =>
    refine (sides_answer M value).bind fun side hside => .pure ?_
    rw [Predicate.UnknownIf, Predicate.truth, Valuation.compare_eq_unknown, hside.1,
      Expr.value_param, hside.2]
    cases value with
    | null => cases hd : t.isDotted <;> simp [leavesOpen, hd, Json.isNull]
    | bool _ | num _ | str _ | arr _ | obj _ => simp [leavesOpen, Json.isNull]
  next relative hrelative =>
    have hn : value.isNull = false := by
      cases value with
      | null => cases hrelative
      | bool _ | num _ | str _ | arr _ | obj _ => rfl
    rw [hplain hn]
    split
    · exact .throw_bind rfl
    · split
      · refine (Timestamp.Relative.resolve_refuses _ _).bind fun instant _ => .pure ?_
        exact Predicate.unknownIf_compare column_missing
          (by simp [Expr.value_param, Datum.isNull])
      · exact .throw rfl

theorem distance_missing (p : GeoPoint) : (t.distance p).value M = none ↔ t.isMissing M := by
  have hpoint := Expr.value_point (M := M) p.toPoint
  rw [distance, Expr.value_apply₂ (by decide), Expr.value_cast, Expr.value_cast,
    or_iff_left hpoint, column_missing]

theorem arrayColumn_missing : t.arrayColumn.value M = none ↔ t.isMissing M := by
  unfold arrayColumn
  split
  · rw [Expr.value_apply (by decide), column_missing]
  · exact column_missing

theorem operator_answers (op : Operator) : Yields (operator scope t op) fun found =>
    FoundUnknownIf M found.toList (t.leavesOpen M op) := by
  have hparam (d : Datum) (hd : d.isNull = false) : (Expr.param d).value M ≠ none := by
    rw [ne_eq, Expr.value_param, hd]
    exact Bool.false_ne_true
  have hcast (type : String) (d : Datum) (hd : d.isNull = false) :
      ((Expr.param d).cast type).value M ≠ none := by
    rw [ne_eq, Expr.value_cast]
    exact hparam d hd
  have hcolumn (type : String) : (t.column.cast type).value M = none ↔ t.isMissing M := by
    rw [Expr.value_cast, column_missing]
  have htest {p : Predicate} {flag : Bool} (h : p.UnknownIf M flag) :
      Yields (.ok (some p)) fun found => FoundUnknownIf M found.toList flag :=
    .ok (foundUnknownIf_single h)
  cases op with
  | ne value => exact .map ((differs_answers M value).mono fun _ => foundUnknownIf_single)
  | eq value =>
    cases value with
    | null => exact htest (Predicate.unknownIf_isNull _)
    | bool _ | num _ | str _ | arr _ | obj _ =>
      exact .map ((equals_answers M scope rfl).mono fun _ => foundUnknownIf_single)
  | isIn items => exact isIn_operator_answers M items
  | notIn items => exact notIn_operator_answers M items
  | all items => exact containsAll_answers M items
  | present expected =>
    cases expected with
    | false => exact htest (Predicate.unknownIf_isNull _)
    | true => exact htest (Predicate.unknownIf_isNotNull _)
  | containedBy items =>
    exact htest (Predicate.unknownIf_compare (arrayColumn_missing M) (Expr.value_json _))
  | search text =>
    have hlanguage : ((Expr.text (text.language.getD scope.language)).cast "regconfig").value M ≠
        none := hcast _ (.text _) rfl
    refine htest (Predicate.unknownIf_compare ?_ ?_)
    · rw [Expr.value_apply₂ (by decide), or_iff_right hlanguage]
      exact column_missing
    · rw [ne_eq, Expr.value_apply₂ (by decide), or_iff_right hlanguage]
      exact Expr.value_text _
  | near center limit =>
    refine htest ?_
    cases limit with
    | none => simp [Predicate.UnknownIf, Predicate.truth, leavesOpen]
    | some limit =>
      have hlimit : M.datum? (meters limit) ≠ none := hparam (meters limit) rfl
      rw [Predicate.UnknownIf, Option.map_some, Predicate.truth, Valuation.compare_eq_unknown,
        or_iff_left hlimit]
      exact distance_missing M center
  | withinSphere center radius =>
    exact htest (Predicate.unknownIf_compare (distance_missing M center) (hparam _ rfl))
  | withinBox southWest northEast =>
    exact htest (Predicate.unknownIf_compare (hcolumn _) (hcast _ _ rfl))
  | withinPolygon points =>
    exact htest (Predicate.unknownIf_compare (hcolumn _) (hcast _ _ rfl))
  | covers p => exact htest (Predicate.unknownIf_compare (hcolumn _) (hcast _ _ rfl))
  | regex pattern options =>
    exact htest (Predicate.unknownIf_compare column_missing (Expr.value_text _))
  | compare comparator value =>
    exact .map ((comparison_answers M scope comparator value).mono fun _ => foundUnknownIf_single)

theorem conditions_answer (condition : Condition) :
    Yields (t.conditions scope condition) fun found =>
      FoundUnknownIf M found (t.conditionOpen M condition) := by
  cases condition with
  | null => exact .ok (foundUnknownIf_single (Predicate.unknownIf_isNull _))
  | scalar value =>
    have hn : value.toJson.isNull = false := by
      cases value with
      | string _ | number _ | bool _ => rfl
    exact (equals_answers M scope hn).bind fun p hp => .pure (foundUnknownIf_single hp)
  | pointer value =>
    simp only [conditions, conditionOpen]
    split
    next ha =>
      rw [ha]
      exact .pure (foundUnknownIf_single (arrayTest_answers M (by decide) _))
    next ha =>
      rw [Bool.eq_false_iff.2 ha]
      refine (Datum.pointerId_refuses value).bind fun id _ => .pure (foundUnknownIf_single ?_)
      exact Predicate.unknownIf_compare column_missing (Expr.value_text id)
  | date instant =>
    refine .ok (foundUnknownIf_single (Predicate.unknownIf_compare column_missing ?_))
    simp [Expr.value_param, Datum.isNull]
  | geoPoint p =>
    exact .ok (foundUnknownIf_single
      (Predicate.unknownIf_compare column_missing (Expr.value_point _)))
  | polygon value =>
    refine (Ring.ofJson_refuses value).bind fun ring _ => .pure (foundUnknownIf_single ?_)
    refine Predicate.unknownIf_compare column_missing ?_
    rw [Expr.polygon, ne_eq, Expr.value_cast]
    exact Expr.value_text _
  | operators tests =>
    refine (Yields.mapM_forall₂ fun op _ => operator_answers M scope op).bind
      fun results hall => .pure ?_
    rw [conditionOpen]
    induction hall with
    | nil => exact foundUnknownIf_nil M
    | @cons op found tests results hfirst _ ih =>
      have hfound : (found :: results).filterMap id = found.toList ++ results.filterMap id := by
        cases found with
        | none => rfl
        | some p => rfl
      rw [hfound, List.any_cons]
      exact foundUnknownIf_append hfirst ih

end Target
end DocSql
