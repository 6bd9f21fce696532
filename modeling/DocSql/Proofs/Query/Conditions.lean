import DocSql.Proofs.Refusals
import DocSql.Proofs.Sql.Fragments
import DocSql.Query.Filter

/-!
The conditions of a clause: each operator gives a fragment or none, whatever
the field, its type and the value, and only `$nearSphere` asks for an ordering.
-/
namespace DocSql

open Sql (Expr Predicate)

namespace Target

variable (scope : Scope) (t : Target)

theorem column_tight : t.column.IsTight := by
  unfold column
  split
  · exact trivial
  · exact trivial

theorem column_params {t : Target} : t.column.params = [] := by
  unfold column
  split
  · rfl
  · rfl

theorem arrayColumn_tight : t.arrayColumn.IsTight := by
  unfold arrayColumn
  split
  · exact ⟨rfl, t.column_tight⟩
  · exact t.column_tight

theorem distance_tight (p : GeoPoint) : (t.distance p).IsTight :=
  ⟨rfl, ⟨t.column_tight, rfl⟩, ⟨Expr.point_tight _, rfl⟩⟩

theorem arrayTest_isAtom {function : String} (h : Sql.isName function.toList) (items : List Json) :
    (t.arrayTest function items).IsAtom :=
  .holds ⟨h, t.arrayColumn_tight, Expr.json_tight _⟩

theorem arrayTest_isTest {function : String} (h : Sql.isName function.toList) (items : List Json) :
    (t.arrayTest function items).IsTest :=
  ⟨.atom (t.arrayTest_isAtom h items), rfl⟩

theorem notArrayTest_isTest {function : String} (h : Sql.isName function.toList)
    (items : List Json) : (Predicate.not (t.arrayTest function items)).IsTest :=
  ⟨.negated (t.arrayTest_isAtom h items), rfl⟩

theorem operand_refuses (value : Json) : NeverInternal (t.operand value) := by
  unfold operand
  split
  · exact .map (Timestamp.ofJson_refuses _)
  · exact Datum.infer_refuses _
  · exact .map (Datum.pointerId_refuses _)
  · exact Datum.infer_refuses _

theorem dottedOperand_yields (value : Json) :
    Yields (t.dottedOperand value) fun side => side.1.IsTight := by
  unfold dottedOperand
  dsimp only
  split
  · exact .ok ⟨trivial, rfl⟩
  · exact .ok ⟨trivial, rfl⟩
  · exact .ok trivial
  · split
    · exact (Timestamp.ofJson_refuses _).bind fun _ _ => .pure trivial
    · exact (Datum.pointerId_refuses _).bind fun _ _ => .pure trivial
    · exact .ok trivial

theorem sides_yields (value : Json) : Yields (t.sides value) fun side => side.1.IsTight := by
  unfold sides
  split
  · exact t.dottedOperand_yields value
  · exact (t.operand_refuses value).bind fun _ _ => .pure t.column_tight

theorem rejectRelativeTime_refuses (value : Json) : NeverInternal (rejectRelativeTime value) := by
  unfold rejectRelativeTime
  split
  · exact .error rfl
  · exact .ok trivial

theorem equals_yields (value : Json) : Yields (equals scope t value) Predicate.IsTest := by
  unfold equals
  refine (rejectRelativeTime_refuses value).bind fun _ _ => ?_
  dsimp only
  split
  · refine (t.dottedOperand_yields value).bind fun side hside => .pure ?_
    exact .compare hside trivial
  · split
    · exact .pure (t.arrayTest_isTest rfl _)
    · have hplain : Yields (do return Predicate.compare t.column .eq (.param (← t.operand value)))
          Predicate.IsTest :=
        (t.operand_refuses value).bind fun _ _ => .pure (.compare t.column_tight trivial)
      split
      · exact .pure (.compare t.column_tight trivial)
      · split
        · exact .pure (.compare ⟨rfl, t.column_tight⟩ ⟨rfl, trivial⟩)
        · exact hplain
      · exact hplain

theorem differs_yields (value : Json) : Yields (t.differs value) Predicate.IsTest := by
  unfold differs
  refine (rejectRelativeTime_refuses value).bind fun _ _ => ?_
  dsimp only
  split
  · exact .pure (t.notArrayTest_isTest rfl _)
  · split
    · exact .pure (.isNotNull t.column_tight)
    · split
      · refine (GeoPoint.ofJson_refuses value).bind fun p _ => .pure ?_
        exact .orNull t.column_tight (Expr.point_tight _)
      · refine (t.sides_yields value).bind fun side hside => .pure ?_
        exact .orNull hside trivial

theorem overlaps_yields (items : List Json) : Yields (t.overlaps items) Predicate.IsTest := by
  unfold overlaps
  refine Yields.bind (P := fun _ => True) ?_ fun values _ => ?_
  · exact (Yields.mapM fun item _ => Datum.infer_refuses item).neverInternal
  · dsimp only
    have hnull : (Predicate.isNull t.column).IsAtom := .isNull t.column_tight
    have hcommon : (Predicate.compare t.column .overlaps (.array values)).IsAtom :=
      .compare t.column_tight trivial
    split
    · exact .pure (.isNull t.column_tight)
    · split
      · exact .pure ⟨.anyOf hnull hcommon, rfl⟩
      · exact .pure ⟨.atom hcommon, rfl⟩

theorem scalarMembership_yields (items : List Json) (negated : Bool) :
    Yields (t.scalarMembership items negated) Predicate.IsTest := by
  unfold scalarMembership
  refine Yields.bind (P := fun _ => True) ?_ fun values _ => ?_
  · exact (Yields.mapM fun item _ => t.operand_refuses item).neverInternal
  · dsimp only
    have hcolumn := t.column_tight
    split
    · refine .pure ?_
      split
      · exact .isNotNull hcolumn
      · exact .isNull hcolumn
    · split
      · exact .pure (.isIn hcolumn)
      · exact .pure ⟨.anyOf (.isNull hcolumn) (.isIn hcolumn), rfl⟩
      · exact .pure (.notIn hcolumn)
      · exact .pure ⟨.allOf (.isNotNull hcolumn) (.notIn hcolumn), rfl⟩

theorem membership_yields (items : List Json) (negated : Bool) :
    Yields (t.membership items negated) fun found => ∀ p ∈ found, p.IsTest := by
  unfold membership
  dsimp only
  split
  · split
    · exact .pure (by simp)
    · refine .pure ?_
      intro p hp
      cases hp
      exact .compare ⟨trivial, rfl⟩ (Expr.json_tight _)
  · split
    · refine (t.overlaps_yields items).bind fun found hfound => .pure ?_
      simpa using hfound
    · split
      · refine .pure ?_
        intro p hp
        cases hp
        split
        · exact .always
        · exact .isNull t.column_tight
      · split
        · refine .pure ?_
          intro p hp
          cases hp
          split
          · exact t.notArrayTest_isTest rfl _
          · exact t.arrayTest_isTest rfl _
        · refine (t.scalarMembership_yields _ negated).bind fun found hfound => .pure ?_
          simpa using hfound

theorem containsAll_yields (items : List Json) :
    Yields (t.containsAll items) fun found => ∀ p ∈ found, p.IsTest := by
  unfold containsAll
  split
  · split
    · refine (Pattern.likeStarts_refuses items).bind fun starts _ => .pure ?_
      simpa using t.arrayTest_isTest rfl starts
    · refine .pure ?_
      simpa using t.arrayTest_isTest rfl items
  · split
    · refine (Datum.pointerId_refuses _).bind fun id _ => .pure ?_
      have htest : (Predicate.compare t.column .eq (.text id)).IsTest :=
        .compare t.column_tight trivial
      simpa using htest
    · exact .pure (by simp)

theorem searches_isTest (search : TextSearch) : (searches scope t search).IsTest :=
  .compare ⟨rfl, ⟨trivial, rfl⟩, t.column_tight⟩ ⟨rfl, ⟨trivial, rfl⟩, trivial⟩

theorem comparison_yields (comparator : Comparator) (value : Json) :
    Yields (comparison scope t comparator value) Predicate.IsTest := by
  unfold comparison
  dsimp only
  split
  · refine (t.sides_yields value).bind fun side hside => .pure ?_
    exact .compare hside trivial
  · split
    · exact .throw_bind rfl
    · split
      · refine (Timestamp.Relative.resolve_refuses _ _).bind fun instant _ => .pure ?_
        exact .compare t.column_tight trivial
      · exact .throw rfl

end Target

def Operator.center? : Operator → Option GeoPoint
  | near center _ => some center
  | _ => none

def Condition.centers : Condition → List GeoPoint
  | operators tests => tests.filterMap Operator.center?
  | _ => []

namespace Target

variable (scope : Scope) (t : Target)

/-- The found conditions are fragments that ask for these orderings. -/
def Finds (centers : List GeoPoint) (found : List Predicate) : Prop :=
  (∀ p ∈ found, p.IsFragment) ∧ Predicate.distancesAll found = centers.map t.distance

theorem finds_nil : t.Finds [] [] := ⟨by simp, rfl⟩

theorem finds_test {p : Predicate} (h : p.IsTest) : t.Finds [] [p] :=
  ⟨by simpa using h.fragment, by simp [Predicate.distancesAll, h.unordered]⟩

theorem finds_tests {found : Option Predicate} (h : ∀ p ∈ found, p.IsTest) :
    t.Finds [] found.toList := by
  cases found with
  | none => exact t.finds_nil
  | some p => exact t.finds_test (h p rfl)

theorem finds_append {centers more : List GeoPoint} {found rest : List Predicate}
    (h : t.Finds centers found) (hr : t.Finds more rest) :
    t.Finds (centers ++ more) (found ++ rest) := by
  constructor
  · intro p hp
    rcases List.mem_append.1 hp with hp | hp
    · exact h.1 p hp
    · exact hr.1 p hp
  · rw [Predicate.distancesAll_append, h.2, hr.2, List.map_append]

theorem operator_yields (op : Operator) :
    Yields (operator scope t op) fun found => t.Finds op.center?.toList found.toList := by
  have hcolumn := t.column_tight
  have htest {p : Predicate} (h : p.IsTest) :
      Yields (.ok (some p)) fun found => t.Finds [] found.toList := .ok (t.finds_test h)
  cases op with
  | ne value =>
    unfold operator
    exact .map ((t.differs_yields value).mono fun _ => t.finds_test)
  | eq value =>
    have hequals := (t.equals_yields scope value).mono fun _ => t.finds_test
    cases value with
    | null => exact htest (.isNull hcolumn)
    | bool _ | num _ | str _ | arr _ | obj _ => exact .map hequals
  | isIn items =>
    unfold operator
    exact (t.membership_yields items false).mono fun _ => t.finds_tests
  | notIn items =>
    unfold operator
    exact (t.membership_yields items true).mono fun _ => t.finds_tests
  | all items =>
    unfold operator
    exact (t.containsAll_yields items).mono fun _ => t.finds_tests
  | present expected =>
    cases expected with
    | false => exact htest (.isNull hcolumn)
    | true => exact htest (.isNotNull hcolumn)
  | containedBy items => exact htest (.compare t.arrayColumn_tight (Expr.json_tight _))
  | search text => exact htest (t.searches_isTest scope text)
  | near center limit =>
    refine .ok ⟨?_, rfl⟩
    simpa using .atom (.nearest (t.distance_tight center))
  | withinSphere center radius => exact htest (.compare (t.distance_tight center) trivial)
  | withinBox southWest northEast => exact htest (.compare ⟨hcolumn, rfl⟩ ⟨trivial, rfl⟩)
  | withinPolygon points => exact htest (.compare ⟨hcolumn, rfl⟩ (Expr.polygon_tight _))
  | covers p => exact htest (.compare ⟨hcolumn, rfl⟩ ⟨trivial, rfl⟩)
  | regex pattern options => exact htest (.compare hcolumn trivial)
  | compare comparator value =>
    exact .map ((t.comparison_yields scope comparator value).mono fun _ => t.finds_test)

theorem operators_yields (tests : List Operator) :
    Yields (tests.mapM (operator scope t)) fun found =>
      t.Finds (tests.filterMap Operator.center?) (found.filterMap id) := by
  refine (Yields.mapM_forall₂ fun op _ => t.operator_yields scope op).mono fun found hall => ?_
  induction hall with
  | nil => exact t.finds_nil
  | @cons op p tests found hp hrest ih =>
    have htests : (op :: tests).filterMap Operator.center? =
        op.center?.toList ++ tests.filterMap Operator.center? := by
      cases h : op.center? <;> simp [h]
    have hfound : (p :: found).filterMap id = p.toList ++ found.filterMap id := by
      cases p <;> simp
    rw [htests, hfound]
    exact t.finds_append hp ih

theorem conditions_yields (condition : Condition) :
    Yields (t.conditions scope condition) (t.Finds condition.centers) := by
  have hcolumn := t.column_tight
  cases condition with
  | null => exact .ok (t.finds_test (.isNull hcolumn))
  | scalar value =>
    exact (t.equals_yields scope value.toJson).bind fun p hp => .pure (t.finds_test hp)
  | pointer value =>
    simp only [conditions, Condition.centers]
    split
    · exact .pure (t.finds_test (t.arrayTest_isTest rfl [value]))
    · refine (Datum.pointerId_refuses value).bind fun id _ => .pure (t.finds_test ?_)
      exact .compare hcolumn trivial
  | date instant => exact .ok (t.finds_test (.compare hcolumn trivial))
  | geoPoint p => exact .ok (t.finds_test (.compare hcolumn (Expr.point_tight _)))
  | polygon value =>
    refine (Ring.ofJson_refuses value).bind fun ring _ => .pure (t.finds_test ?_)
    exact .compare hcolumn (Expr.polygon_tight ring)
  | operators tests => exact (t.operators_yields scope tests).bind fun _ hfound => .pure hfound

end Target

/-- A `$nearSphere` of a query: the field it is on and its center. -/
structure Sphere where
  target : Target
  center : GeoPoint
deriving Inhabited

def Sphere.distance (s : Sphere) : Expr := s.target.distance s.center

def Target.spheres (t : Target) (condition : Condition) : List Sphere :=
  if t.skips condition then [] else condition.centers.map (Sphere.mk t)

namespace Query

mutual

def clauseSpheres (scope : Scope) : Clause → List Sphere
  | .field name condition => Target.spheres ⟨name, scope.schema.field? name⟩ condition
  | .group _ queries => groupSpheres scope queries

/-- The `$nearSphere`s of a query from left to right, groups included. -/
def spheres (scope : Scope) : List Clause → List Sphere
  | [] => []
  | clause :: rest => clauseSpheres scope clause ++ spheres scope rest

def groupSpheres (scope : Scope) : List (List Clause) → List Sphere
  | [] => []
  | query :: rest => spheres scope query ++ groupSpheres scope rest

end

def Covers (spheres : List Sphere) (found : List Predicate) : Prop :=
  (∀ p ∈ found, p.IsPlain) ∧ Predicate.distancesAll found = spheres.map Sphere.distance

theorem Covers.append {spheres more : List Sphere} {found rest : List Predicate}
    (h : Covers spheres found) (hr : Covers more rest) :
    Covers (spheres ++ more) (found ++ rest) := by
  constructor
  · intro p hp
    rcases List.mem_append.1 hp with hp | hp
    · exact h.1 p hp
    · exact hr.1 p hp
  · rw [Predicate.distancesAll_append, h.2, hr.2, List.map_append]

theorem Covers.conjunction {spheres : List Sphere} {found : List Predicate}
    (h : Covers spheres found) : Covers spheres [Query.conjunction found] := by
  cases found with
  | nil => exact ⟨by simp [Query.conjunction, Predicate.IsPlain], h.2⟩
  | cons p rest =>
    refine ⟨?_, ?_⟩
    · simpa [Query.conjunction, Predicate.IsPlain, Predicate.allPlain_iff] using h.1
    · simpa [Query.conjunction, Predicate.distancesAll, Predicate.distances] using h.2

theorem Covers.group {spheres : List Sphere} {parts : List Predicate} (h : Covers spheres parts)
    (kind : Group) : Covers spheres [kind.predicate parts] := by
  cases kind
  all_goals
    refine ⟨?_, ?_⟩
    · simpa [Group.predicate, Predicate.IsPlain, Predicate.allPlain_iff] using h.1
    · simpa [Group.predicate, Predicate.distancesAll, Predicate.distances] using h.2

theorem clause_covers (scope : Scope) (t : Target) (condition : Condition) :
    Yields (t.clause scope condition) (Covers (t.spheres condition)) := by
  unfold Target.clause Target.spheres
  split
  · exact .pure ⟨by simp, rfl⟩
  · refine (t.conditions_yields scope condition).bind fun found hfound => ?_
    split
    · exact .throw rfl
    · refine .pure ⟨fun p hp => (hfound.1 p hp).isPlain, ?_⟩
      rw [hfound.2, List.map_map]
      rfl

mutual

theorem clausePredicates_yields (scope : Scope) : ∀ clause : Clause,
    Yields (clausePredicates scope clause) (Covers (clauseSpheres scope clause))
  | .field name condition => by
    simp only [clausePredicates, clauseSpheres]
    exact clause_covers scope _ condition
  | .group kind queries => by
    simp only [clausePredicates, clauseSpheres]
    exact (groupPredicates_yields scope queries).bind fun parts hparts => .pure (hparts.group kind)

theorem predicates_yields (scope : Scope) : ∀ query : List Clause,
    Yields (predicates scope query) (Covers (spheres scope query))
  | [] => by
    simp only [predicates, spheres]
    exact .ok ⟨by simp, rfl⟩
  | clause :: rest => by
    simp only [predicates, spheres]
    refine (clausePredicates_yields scope clause).bind fun found hfound => ?_
    exact (predicates_yields scope rest).bind fun more hmore => .pure (hfound.append hmore)

theorem groupPredicates_yields (scope : Scope) : ∀ queries : List (List Clause),
    Yields (groupPredicates scope queries) (Covers (groupSpheres scope queries))
  | [] => by
    simp only [groupPredicates, groupSpheres]
    exact .ok ⟨by simp, rfl⟩
  | query :: rest => by
    simp only [groupPredicates, groupSpheres]
    refine (predicates_yields scope query).bind fun found hfound => ?_
    refine (groupPredicates_yields scope rest).bind fun parts hparts => .pure ?_
    exact hfound.conjunction.append hparts

end

end Query
end DocSql
