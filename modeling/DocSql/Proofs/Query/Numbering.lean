import DocSql.Proofs.Query.Conditions
import DocSql.Proofs.Sql.Texts

/-!
A compiled query numbers its parameters from left to right, each of them once,
and its orderings by distance point back at the center they were made from.
-/
namespace DocSql

open Sql (Builder Filter Predicate Shows ShowsAll placeholders)

/-- The ordering is by the distance to the center, and the two positions that
it refers to hold the longitude and the latitude of the center. -/
def Sphere.Orders (first : Nat) (params : List Datum) (s : Sphere) (sort : String) : Prop :=
  ∃ i, first ≤ i ∧ sort = Sql.number i s.distance.template ++ " ASC" ∧
    placeholders sort = [i, i + 1] ∧
    params[i - first]? = some (.float s.center.longitude) ∧
    params[i + 1 - first]? = some (.float s.center.latitude)

namespace Sphere

variable {first : Nat} {params : List Datum} {sort : String}

theorem distance_params (s : Sphere) :
    s.distance.params = [.float s.center.longitude, .float s.center.latitude] := by
  simp [distance, Target.distance, Sql.Expr.params, Sql.Expr.point, Target.column_params,
    GeoPoint.toPoint]

theorem sort_shows (s : Sphere) (i : Nat) :
    Shows (Sql.number i s.distance.template ++ " ASC").toList [i, i + 1] := by
  have haligned := Sql.Expr.aligned (s.target.distance_tight s.center).isPlain
  rw [← distance, distance_params] at haligned
  rw [String.toList_append]
  exact (haligned.number_shows i).closedBy rfl

theorem orders {s : Sphere} (h : Sql.OrdersBy first params s.distance sort) :
    s.Orders first params sort := by
  obtain ⟨before, after, hparams, hsort⟩ := h
  rw [distance_params] at hparams
  refine ⟨first + before.length, Nat.le_add_right _ _, hsort, ?_, ?_, ?_⟩
  · rw [hsort]
    exact (s.sort_shows _).placeholders_eq
  · rw [hparams, Nat.add_sub_cancel_left]
    simp
  · have hindex : first + before.length + 1 - first = before.length + 1 := by omega
    rw [hparams, hindex]
    simp

theorem Orders.shows {s : Sphere} (h : s.Orders first params sort) :
    Shows sort.toList (placeholders sort) := by
  obtain ⟨i, -, hsort, hfound, -⟩ := h
  rw [hfound, hsort]
  exact s.sort_shows i

theorem Orders.showsAll {spheres : List Sphere} {sorts : List String}
    (h : List.Forall₂ (Orders first params) spheres sorts) :
    ShowsAll sorts (sorts.flatMap placeholders) := by
  induction h with
  | nil => exact .nil
  | cons hfirst _ ih => exact .cons hfirst.shows ih

theorem Orders.within {s : Sphere} {earlier : List Datum}
    (h : s.Orders (first + earlier.length) params sort) (later : List Datum) :
    s.Orders first (earlier ++ params ++ later) sort := by
  obtain ⟨i, hi, hsort, hfound, hx, hy⟩ := h
  have hkept {n : Nat} {x : Datum} (hn : first + earlier.length ≤ n)
      (hx : params[n - (first + earlier.length)]? = some x) :
      (earlier ++ params ++ later)[n - first]? = some x := by
    obtain ⟨hlt, -⟩ := List.getElem?_eq_some_iff.1 hx
    have hshift : n - first = earlier.length + (n - (first + earlier.length)) := by omega
    rw [hshift, List.append_assoc, List.getElem?_append_right (Nat.le_add_right _ _),
      Nat.add_sub_cancel_left, List.getElem?_append_left hlt, hx]
  exact ⟨i, by omega, hsort, hfound, hkept hi hx, hkept (by omega) hy⟩

end Sphere

namespace Query

/-- Where a filter comes from: its conditions, in order, in final text. -/
def IsFilter (scope : Scope) (query : Query) (first : Nat) (filter : Filter)
    (params : List Datum) : Prop :=
  ∃ found, predicates scope query = .ok found ∧ Covers (spheres scope query) found ∧
    filter = ⟨Filter.patternOf first found, Predicate.orderingsAll first found⟩ ∧
    params = Predicate.paramsAll found

theorem filter_binds (scope : Scope) (query : Query) (b : Builder) :
    (filter scope query).Binds b (IsFilter scope query b.next) := by
  unfold filter
  refine .lift_bind (predicates_yields scope query).made fun found hfound => ?_
  obtain ⟨hmade, hcovers⟩ := hfound
  refine (Filter.assemble_binds hcovers.1 b).mono fun made params h => ?_
  exact ⟨found, hmade, hcovers, h.1, h.2⟩

namespace IsFilter

variable {scope : Scope} {query : Query} {first : Nat} {filter : Filter} {params : List Datum}

theorem shows (h : IsFilter scope query first filter params) :
    Shows filter.pattern.toList (List.range' first params.length) := by
  obtain ⟨found, -, hcovers, rfl, rfl⟩ := h
  exact Filter.patternOf_shows hcovers.1 first

theorem orders (h : IsFilter scope query first filter params) :
    List.Forall₂ (Sphere.Orders first params) (spheres scope query) filter.sorts := by
  obtain ⟨found, -, hcovers, rfl, rfl⟩ := h
  have hall := Predicate.orderingsAll_forall₂ first found
  rw [hcovers.2, List.forall₂_map_left_iff] at hall
  exact hall.imp fun _ _ hsort => Sphere.orders hsort

end IsFilter

theorem compile_yields (scope : Scope) (query : Json) (first : Nat) :
    Yields (compile scope query first) fun made =>
      ∃ q, ofJson query = .ok q ∧ IsFilter scope q (max first 1) made.1 made.2 := by
  unfold compile
  refine (ofJson_refuses query).made.bind fun q hq => ?_
  refine ((filter_binds scope q (.startingAt first)).runFrom).mono fun made hmade => ?_
  exact ⟨q, hq.1, hmade⟩

/-- Compiling numbers the parameters of the pattern one after the other from
the first position on, and ties every ordering to the `$nearSphere` it comes
from. It never fails internally, and no fragment of an operator can fail to
bind, whatever was bound before it. -/
theorem compile_numbers (scope : Scope) (query : Json) (first : Nat) :
    (Yields (compile scope query first) fun (filter, params) =>
      placeholders filter.pattern = List.range' (max first 1) params.length ∧
      ∃ q, ofJson query = .ok q ∧
        List.Forall₂ (Sphere.Orders (max first 1) params) (spheres scope q) filter.sorts) ∧
    ∀ (t : Target) (condition : Condition), Yields (t.conditions scope condition) fun found =>
      ∀ p ∈ found, ∀ b : Builder, ∃ made, b.bind p.fragment = .ok made := by
  constructor
  · refine (compile_yields scope query first).mono fun (filter, params) h => ?_
    obtain ⟨q, hq, hfilter⟩ := h
    exact ⟨hfilter.shows.placeholders_eq, q, hq, hfilter.orders⟩
  · intro t condition
    refine (t.conditions_yields scope condition).mono fun found hfound => ?_
    intro p hp b
    exact ⟨_, b.bind_aligned (Predicate.aligned (hfound.1 p hp).isPlain)⟩

end Query
end DocSql
