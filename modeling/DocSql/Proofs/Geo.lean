import DocSql.Geo
import DocSql.Proofs.Number.Value
import Mathlib.Data.List.Basic

/-!
Points on the globe. Bounds are compared as values, and coordinates within them
make points of the same patterns. Main statement: `Ring.mapM_toPoint`, vertices
on the globe are the points of a ring.
-/
namespace DocSql

namespace Double

structure IsWithin (bound : Nat) (x : Double) : Prop where
  finite : x.isFinite
  units_le : x.units ≤ bound * unitsPerOne

instance (bound : Nat) (x : Double) : Decidable (x.IsWithin bound) :=
  decidable_of_iff (x.isFinite ∧ x.units ≤ bound * unitsPerOne)
    ⟨fun h => ⟨h.1, h.2⟩, fun h => ⟨h.finite, h.units_le⟩⟩

end Double

namespace GeoPoint

/-- A bound whose two numbers are exact. -/
structure IsBound (bound : Nat) : Prop where
  low_isNumber : (Double.ofInt (-bound)).isNaN = false
  low : (Double.ofInt (-bound)).signedUnits = -(bound * Double.unitsPerOne : Nat)
  high_isNumber : (Double.ofNat bound).isNaN = false
  high : (Double.ofNat bound).signedUnits = (bound * Double.unitsPerOne : Nat)

theorem isBound_latitude : IsBound 90 := by
  constructor <;> decide +kernel

theorem isBound_longitude : IsBound 180 := by
  constructor <;> decide +kernel

theorem within_iff {bound : Nat} {x : Double} (hb : IsBound bound) :
    within bound x ↔ x.IsWithin bound := by
  have hunits := x.natAbs_signedUnits
  simp only [within, Double.le, hb.low, hb.high, hb.low_isNumber, hb.high_isNumber,
    Bool.not_false, Bool.true_and, Bool.and_true, Bool.and_eq_true, decide_eq_true_eq]
  constructor
  · rintro ⟨⟨hfinite, -, hlow⟩, -, hhigh⟩
    exact ⟨hfinite, by omega⟩
  · rintro ⟨hfinite, hle⟩
    have hnumber : x.isNaN = false := Double.isNaN_of_isFinite hfinite
    rw [hnumber]
    exact ⟨⟨hfinite, rfl, by omega⟩, rfl, by omega⟩

theorem make_of_isWithin {latitude longitude : Double} (hlat : latitude.IsWithin 90)
    (hlon : longitude.IsWithin 180) : make latitude longitude = .ok ⟨latitude, longitude⟩ := by
  unfold make
  rw [(within_iff isBound_latitude).2 hlat, (within_iff isBound_longitude).2 hlon]
  rfl

theorem isWithin_of_make {latitude longitude : Double} {p : GeoPoint}
    (h : make latitude longitude = .ok p) : latitude.IsWithin 90 ∧ longitude.IsWithin 180 := by
  unfold make at h
  split at h
  · cases h
  next hlat =>
    split at h
    · cases h
    next hlon =>
      rw [Bool.not_eq_true, Bool.not_eq_false'] at hlat hlon
      exact ⟨(within_iff isBound_latitude).1 hlat, (within_iff isBound_longitude).1 hlon⟩

end GeoPoint

namespace Ring

structure Vertex.IsOnGlobe (v : Vertex) : Prop where
  latitude : v.1.IsWithin 90
  longitude : v.2.IsWithin 180

instance (v : Vertex) : Decidable v.IsOnGlobe :=
  decidable_of_iff (v.1.IsWithin 90 ∧ v.2.IsWithin 180)
    ⟨fun h => ⟨h.1, h.2⟩, fun h => ⟨h.latitude, h.longitude⟩⟩

def Vertex.toPoint (v : Vertex) : Point := ⟨v.2, v.1⟩

/-- Vertices of a ring that is not closed yet: three of them are different, and
the last one is not where the first one is, both zeros being one coordinate. -/
structure IsOpen (vertices : List Vertex) : Prop where
  onGlobe : ∀ v ∈ vertices, v.IsOnGlobe
  three : ∃ a ∈ vertices, ∃ b ∈ vertices, ∃ c ∈ vertices, a ≠ b ∧ a ≠ c ∧ b ≠ c
  apart : ∀ first ∈ vertices.head?, ∀ last ∈ vertices.getLast?,
    first.toPoint.same last.toPoint = false

theorem mapM_toPoint {vertices : List Vertex} (h : ∀ v ∈ vertices, v.IsOnGlobe) :
    (vertices.mapM fun (latitude, longitude) => do
      return (← GeoPoint.make latitude longitude).toPoint : Except Error Ring) =
        .ok (vertices.map Vertex.toPoint) := by
  induction vertices with
  | nil => rfl
  | cons v rest ih =>
    obtain ⟨latitude, longitude⟩ := v
    obtain ⟨hlat, hlon⟩ := h (latitude, longitude) List.mem_cons_self
    rw [List.mapM_cons, ih fun w hw => h w (List.mem_cons_of_mem _ hw)]
    change (GeoPoint.make latitude longitude >>= _) >>= _ = _
    rw [GeoPoint.make_of_isWithin hlat hlon]
    rfl

theorem toPoint_injective : Function.Injective Vertex.toPoint := by
  rintro ⟨a, b⟩ ⟨c, d⟩ h
  cases h
  rfl

end Ring
end DocSql
