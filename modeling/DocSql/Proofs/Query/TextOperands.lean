import DocSql.Proofs.Alike
import DocSql.Proofs.Query.Skipping
import DocSql.Proofs.Sql.Shapes

/-!
What operators do with texts. But for dates, which are read from their text, no
operator looks into a text: it becomes a parameter as it is or inside a list.
So the conditions of operators whose operands differ in texts alone have the
same shapes.
-/
namespace DocSql

open Error (SameKind)
open Sql (Expr Predicate)
open Sql.Predicate (SameShape SameShapes)

def Json.isText : Json → Bool
  | str _ => true
  | _ => false

/-- Values that are the same or two texts. -/
inductive Json.Akin : Json → Json → Prop
  | same (value : Json) : Akin value value
  | texts (s s' : String) : Akin (.str s) (.str s')

namespace Target

variable (scope : Scope) {t : Target} {value other : Json} {items others : List Json}

theorem operand_text (ht : t.type? ≠ some .date) (s : String) : t.operand (.str s) = .ok (.text s) := by
  obtain ⟨name, type?⟩ := t
  cases type? with
  | none => rfl
  | some type =>
    cases type with
    | date => exact absurd rfl ht
    | _ => rfl

theorem sides_text (ht : t.type? ≠ some .date) (s : String) :
    t.sides (.str s) = .ok (t.column, .text s) := by
  unfold sides
  split
  next hd =>
    have hcolumn : t.column = .textAt t.name := if_pos hd
    rw [hcolumn]
    rfl
  next => rw [operand_text ht]; rfl

theorem equals_akin (ht : t.type? ≠ some .date) (h : value.Akin other) :
    Alike SameKind SameShape (equals scope t value) (equals scope t other) := by
  cases h with
  | same => exact .refl .refl _
  | texts s s' =>
    have hequals (s : String) : equals scope t (.str s) =
        if t.isDotted then .ok (.compare (.textAt t.name) .eq (.text s))
        else if t.isArray then .ok (t.arrayTest "array_contains" [.str s])
        else if scope.foldCase then
          .ok (.compare (.apply "LOWER" t.column) .eq (.apply "LOWER" (.text s)))
        else .ok (.compare t.column .eq (.text s)) := by
      have hoperand := operand_text ht s
      unfold equals
      rw [hoperand]
      cases t.isDotted with
      | true => rfl
      | false =>
        cases t.isArray with
        | true => rfl
        | false =>
          cases scope.foldCase with
          | _ => rfl
    rw [hequals, hequals]
    split
    · exact .ok rfl
    · split
      · exact .ok rfl
      · split
        · exact .ok rfl
        · exact .ok rfl

theorem differs_akin (ht : t.type? ≠ some .date) (h : value.Akin other) :
    Alike SameKind SameShape (t.differs value) (t.differs other) := by
  cases h with
  | same => exact .refl .refl _
  | texts s s' =>
    have hdiffers (s : String) : t.differs (.str s) =
        if t.isArray then .ok (.not (t.arrayTest "array_contains" [.str s]))
        else .ok (.orNull t.column (.compare t.column .ne (.text s))) := by
      unfold differs
      rw [sides_text ht]
      rfl
    rw [hdiffers, hdiffers]
    split
    · exact .ok rfl
    · exact .ok rfl

theorem comparison_akin (ht : t.type? ≠ some .date) (comparator : Comparator)
    (h : value.Akin other) :
    Alike SameKind SameShape (comparison scope t comparator value)
      (comparison scope t comparator other) := by
  cases h with
  | same => exact .refl .refl _
  | texts s s' =>
    have hnone (s : String) : (Json.str s).get? "$relativeTime" = none := rfl
    unfold comparison
    rw [hnone, hnone]
    simp only [sides_text ht]
    exact .ok rfl

theorem flattened_akin (h : List.Forall₂ Json.Akin items others) :
    List.Forall₂ Json.Akin (flattened items) (flattened others) := by
  induction h with
  | nil => exact .nil
  | cons hfirst _ ih =>
    refine List.rel_append ?_ ih
    cases hfirst with
    | same value => exact List.forall₂_same.2 fun item _ => .same item
    | texts s s' => exact .cons (.texts s s') .nil

theorem present_akin (h : List.Forall₂ Json.Akin items others) :
    List.Forall₂ Json.Akin (items.filter (!·.isNull)) (others.filter (!·.isNull)) := by
  refine List.rel_filter (fun value other hvalue => ?_) h
  cases hvalue with
  | same => exact Iff.rfl
  | texts => exact Iff.rfl

theorem listsNull_akin (h : List.Forall₂ Json.Akin items others) :
    items.any Json.isNull = others.any Json.isNull := by
  induction h with
  | nil => rfl
  | cons hfirst _ ih =>
    rw [List.any_cons, List.any_cons, ih]
    cases hfirst with
    | same => rfl
    | texts => rfl

abbrev AsMany (values others : List Datum) : Prop := List.Forall₂ (fun _ _ => True) values others

theorem isEmpty_eq {α β : Type} {R : α → β → Prop} {as : List α} {bs : List β}
    (h : List.Forall₂ R as bs) : as.isEmpty = bs.isEmpty := by
  cases h with
  | nil => rfl
  | cons => rfl

theorem AsMany.map_null {values more : List Datum} (h : AsMany values more) :
    (values.map fun _ => Datum.null) = more.map fun _ => Datum.null := by
  induction h with
  | nil => rfl
  | cons _ _ ih => rw [List.map_cons, List.map_cons, ih]

theorem inferred_akin (h : List.Forall₂ Json.Akin items others) :
    Alike SameKind AsMany (items.mapM Datum.infer) (others.mapM Datum.infer) := by
  refine .mapM (h.imp fun value other hvalue => ?_)
  cases hvalue with
  | same => exact .refl (fun _ => trivial) _
  | texts => exact .ok trivial

theorem operands_akin (ht : t.type? ≠ some .date) (h : List.Forall₂ Json.Akin items others) :
    Alike SameKind AsMany (items.mapM t.operand) (others.mapM t.operand) := by
  refine .mapM (h.imp fun value other hvalue => ?_)
  cases hvalue with
  | same => exact .refl (fun _ => trivial) _
  | texts s s' =>
    rw [operand_text ht, operand_text ht]
    exact .ok trivial

theorem overlaps_akin (h : List.Forall₂ Json.Akin items others) :
    Alike SameKind SameShape (t.overlaps items) (t.overlaps others) := by
  unfold overlaps
  refine (inferred_akin (present_akin h)).bind fun values more hmany => ?_
  rw [isEmpty_eq hmany, listsNull_akin h]
  split
  · exact .ok (.refl _)
  · split
    all_goals
      refine .ok ?_
      simp only [SameShape, Predicate.shape, Predicate.shapes, Expr.shape, hmany.map_null]

theorem scalarMembership_akin (ht : t.type? ≠ some .date) (negated : Bool)
    (h : List.Forall₂ Json.Akin items others) :
    Alike SameKind SameShape (t.scalarMembership items negated)
      (t.scalarMembership others negated) := by
  unfold scalarMembership
  refine (operands_akin ht (present_akin h)).bind fun values more hmany => ?_
  dsimp only
  rw [isEmpty_eq hmany, listsNull_akin h]
  split
  · exact .refl .refl _
  · split
    all_goals
      refine .ok ?_
      simp only [SameShape, Predicate.shape, Predicate.shapes, hmany.map_null]

/-- What two operators come to, if they come to anything, differs in values alone. -/
abbrev SameTest (p q : Option Predicate) : Prop := p.map Predicate.shape = q.map Predicate.shape

theorem SameTest.refl (p : Option Predicate) : SameTest p p := rfl

theorem SameTest.of_some {p q : Predicate} (h : SameShape p q) : SameTest (some p) (some q) :=
  congrArg some h

theorem membership_akin (ht : t.type? ≠ some .date) (negated : Bool)
    (h : List.Forall₂ Json.Akin items others) :
    Alike SameKind SameTest (t.membership items negated) (t.membership others negated) := by
  have hflat := flattened_akin h
  unfold membership
  dsimp only
  rw [isEmpty_eq hflat]
  split
  · split
    · exact .refl SameTest.refl _
    · exact .ok rfl
  · split
    · exact .bind (overlaps_akin h) fun p q hshape => .ok (.of_some hshape)
    · split
      · exact .refl SameTest.refl _
      · split
        · cases negated with
          | _ => exact .ok rfl
        · exact .bind (scalarMembership_akin ht negated hflat) fun p q hshape =>
            .ok (.of_some hshape)

theorem searches_akin (term other : String) (language : Option String) :
    SameShape (searches scope t ⟨term, language⟩) (searches scope t ⟨other, language⟩) := rfl

theorem matchesPattern_akin (pattern other options : String) :
    SameShape (t.matchesPattern pattern options) (t.matchesPattern other options) := rfl

end Target

/-- Operators that differ in the contents of texts they compare with. -/
inductive Operator.Akin : Operator → Operator → Prop
  | same (test : Operator) : Akin test test
  | ne {value other : Json} (h : value.Akin other) : Akin (ne value) (ne other)
  | eq {value other : Json} (h : value.Akin other) : Akin (eq value) (eq other)
  | isIn {items others : List Json} (h : List.Forall₂ Json.Akin items others) :
    Akin (isIn items) (isIn others)
  | notIn {items others : List Json} (h : List.Forall₂ Json.Akin items others) :
    Akin (notIn items) (notIn others)
  | search (term other : String) (language : Option String) :
    Akin (search ⟨term, language⟩) (search ⟨other, language⟩)
  | regex (pattern other options : String) : Akin (regex pattern options) (regex other options)
  | compare (comparator : Comparator) {value other : Json} (h : value.Akin other) :
    Akin (compare comparator value) (compare comparator other)

/-- Conditions that differ in the contents of texts they compare with. -/
inductive Condition.Akin : Condition → Condition → Prop
  | same (condition : Condition) : Akin condition condition
  | texts (s s' : String) : Akin (scalar (.string s)) (scalar (.string s'))
  | operators {tests others : List Operator} (h : List.Forall₂ Operator.Akin tests others) :
    Akin (operators tests) (operators others)

theorem Operator.Akin.asksAbsence_eq {test other : Operator} (h : test.Akin other) :
    test.asksAbsence = other.asksAbsence := by
  cases h with
  | same => rfl
  | ne | eq | isIn | notIn | search | regex | compare => rfl

theorem Operator.asksAbsence_any {tests others : List Operator} (h : List.Forall₂ Akin tests others) :
    tests.any asksAbsence = others.any asksAbsence := by
  induction h with
  | nil => rfl
  | cons hfirst _ ih => rw [List.any_cons, List.any_cons, ih, hfirst.asksAbsence_eq]

namespace Target

variable (scope : Scope) {t : Target}

theorem operator_akin (ht : t.type? ≠ some .date) {test other : Operator} (h : test.Akin other) :
    Alike SameKind SameTest (t.operator scope test) (t.operator scope other) := by
  cases h with
  | same => exact .refl SameTest.refl _
  | ne h => exact .map ((differs_akin ht h).mono fun _ _ => .of_some)
  | eq h =>
    cases h with
    | same => exact .refl SameTest.refl _
    | texts s s' => exact .map ((equals_akin scope ht (.texts s s')).mono fun _ _ => .of_some)
  | isIn h => exact membership_akin ht false h
  | notIn h => exact membership_akin ht true h
  | search term other language => exact .ok (.of_some (searches_akin scope term other language))
  | regex pattern other options => exact .ok (.of_some (matchesPattern_akin pattern other options))
  | compare comparator h =>
    exact .map ((comparison_akin scope ht comparator h).mono fun _ _ => .of_some)

theorem shapes_of_sameTests {found others : List (Option Predicate)}
    (h : List.Forall₂ SameTest found others) :
    SameShapes (found.filterMap id) (others.filterMap id) := by
  induction h with
  | nil => exact .refl []
  | @cons p q found others hfirst _ ih =>
    cases p with
    | none =>
      cases q with
      | none => exact ih
      | some q => cases hfirst
    | some p =>
      cases q with
      | none => cases hfirst
      | some q => exact .append (.single (Option.some.inj hfirst)) ih

theorem conditions_akin (ht : t.type? ≠ some .date) {condition other : Condition}
    (h : condition.Akin other) :
    Alike SameKind SameShapes (t.conditions scope condition) (t.conditions scope other) := by
  cases h with
  | same => exact .refl .refl _
  | texts s s' =>
    exact .bind (equals_akin scope ht (.texts s s')) fun p q hshape => .ok (.single hshape)
  | operators h =>
    refine .bind (.mapM (h.imp fun test other htest => operator_akin scope ht htest)) ?_
    exact fun found others hfound => .ok (shapes_of_sameTests hfound)

theorem skips_akin {condition other : Condition} (h : condition.Akin other) :
    t.skips condition = t.skips other := by
  rw [skips_eq, skips_eq]
  cases h with
  | same => rfl
  | texts => rfl
  | operators h =>
    rw [Condition.asksAbsence, Condition.asksAbsence, Operator.asksAbsence_any h]

theorem clause_akin (ht : t.type? ≠ some .date) {condition other : Condition}
    (h : condition.Akin other) :
    Alike SameKind SameShapes (t.clause scope condition) (t.clause scope other) := by
  unfold clause
  rw [skips_akin h]
  split
  · exact .ok (.refl [])
  · refine (conditions_akin scope ht h).bind fun found others hfound => ?_
    cases found with
    | nil =>
      cases others with
      | nil => exact .error rfl
      | cons => cases hfound
    | cons =>
      cases others with
      | nil => cases hfound
      | cons => exact .ok hfound

end Target
end DocSql
