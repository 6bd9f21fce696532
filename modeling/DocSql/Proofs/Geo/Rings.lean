import DocSql.Proofs.Geo
import DocSql.Proofs.Outcome
import Mathlib.Data.Finset.Card
import Mathlib.Data.Finset.Image

/-!
Closing and opening a ring, for every list of vertices. Whether a ring ends where
it starts is asked of positions, which are numbers, and both zeros are one
number; whether it has three vertices is asked of patterns. Main statements:
`opened_close`, what a ring is and what is shown of it, and `close_refuses_iff`.
-/
namespace DocSql

abbrev Position := ℚ × ℚ

def Point.position (p : Point) : Position := (p.y.value, p.x.value)

namespace Ring

def Vertex.position (v : Vertex) : Position := (v.1.value, v.2.value)

def Vertex.ofPoint (p : Point) : Vertex := (p.y, p.x)

def IsClosed (positions : List Position) : Prop :=
  positions ≠ [] ∧ positions.head? = positions.getLast?

instance (positions : List Position) : Decidable (IsClosed positions) :=
  inferInstanceAs (Decidable (_ ∧ _))

/-- How many vertices are different, the zeros too. -/
def patternCount (vertices : List Vertex) : Nat := vertices.toFinset.card

def positionCount (vertices : List Vertex) : Nat := (vertices.map Vertex.position).toFinset.card

/-- The vertices with the first one behind the last, unless they end where they start. -/
def closing (vertices : List Vertex) : List Vertex :=
  if IsClosed (vertices.map Vertex.position) then vertices else vertices ++ vertices.head?.toList

def degenerate : Error := .geometry "GeoJSON: Loop must have at least 3 different vertices"

variable {vertices : List Vertex} {ring : Ring}

theorem same_iff {v w : Vertex} (hv : v.IsOnGlobe) (hw : w.IsOnGlobe) :
    v.toPoint.same w.toPoint ↔ v.position = w.position := by
  simp only [Point.same, Vertex.toPoint, Vertex.position, Bool.and_eq_true, Prod.mk.injEq,
    Double.same_iff hv.longitude.finite hw.longitude.finite,
    Double.same_iff hv.latitude.finite hw.latitude.finite]
  exact and_comm

theorem exists_ends {α : Type} {items : List α} (hne : items ≠ []) :
    ∃ first last, items.head? = some first ∧ items.getLast? = some last :=
  ⟨_, _, List.head?_eq_some_head hne, List.getLast?_eq_getLast_of_ne_nil hne⟩

theorem same_ends_iff (h : ∀ v ∈ vertices, v.IsOnGlobe) {first last : Vertex}
    (hfirst : vertices.head? = some first) (hlast : vertices.getLast? = some last) :
    first.toPoint.same last.toPoint ↔ IsClosed (vertices.map Vertex.position) := by
  rw [same_iff (h first (List.mem_of_mem_head? hfirst)) (h last (List.mem_of_getLast? hlast)),
    IsClosed, List.head?_map, List.getLast?_map, hfirst, hlast]
  constructor
  · intro hends
    refine ⟨?_, congrArg some hends⟩
    exact List.ne_nil_of_mem (List.mem_map_of_mem (List.mem_of_mem_head? hfirst))
  · rintro ⟨-, hends⟩
    exact Option.some_inj.1 hends

theorem map_position (vertices : List Vertex) :
    (vertices.map Vertex.toPoint).map Point.position = vertices.map Vertex.position :=
  List.map_map

theorem map_ofPoint (vertices : List Vertex) :
    (vertices.map Vertex.toPoint).map Vertex.ofPoint = vertices := by
  rw [List.map_map]
  exact List.map_id vertices

theorem nodup_eraseDups {α : Type} [DecidableEq α] (items : List α) : items.eraseDups.Nodup := by
  induction hlength : items.length using Nat.strong_induction_on generalizing items with
  | _ length ih =>
    cases items with
    | nil => exact List.nodup_nil
    | cons a rest =>
      have hshorter := List.length_filter_le (fun b => !b == a) rest
      rw [List.length_cons] at hlength
      rw [List.eraseDups_cons, List.nodup_cons]
      exact ⟨by simp, ih _ (by omega) _ rfl⟩

theorem distinctCount_eq (vertices : List Vertex) :
    distinctCount (vertices.map Vertex.toPoint) = patternCount vertices := by
  have hset : (vertices.map Vertex.toPoint).eraseDups.toFinset =
      vertices.toFinset.image Vertex.toPoint := by
    ext p
    simp
  unfold distinctCount patternCount
  rw [← List.toFinset_card_of_nodup (nodup_eraseDups _), hset,
    Finset.card_image_of_injective _ toPoint_injective]

theorem positionCount_eq (vertices : List Vertex) :
    positionCount vertices = (vertices.toFinset.image Vertex.position).card := by
  unfold positionCount
  congr 1
  ext p
  simp

theorem positionCount_le (vertices : List Vertex) :
    positionCount vertices ≤ patternCount vertices := by
  rw [positionCount_eq]
  exact Finset.card_image_le

theorem patternCount_le_length (vertices : List Vertex) :
    patternCount vertices ≤ vertices.length := List.toFinset_card_le vertices

theorem patternCount_append_head (vertices : List Vertex) :
    patternCount (vertices ++ vertices.head?.toList) = patternCount vertices := by
  cases vertices with
  | nil => rfl
  | cons first rest =>
    unfold patternCount
    congr 1
    ext v
    simp

theorem patternCount_closing (vertices : List Vertex) :
    patternCount (closing vertices) = patternCount vertices := by
  unfold closing
  split
  · rfl
  · exact patternCount_append_head vertices

theorem ne_nil_of_three (h : 3 ≤ patternCount vertices) : vertices ≠ [] := by
  rintro rfl
  exact absurd h (by decide)

theorem one_lt_length_closing (h : 3 ≤ patternCount vertices) : 1 < (closing vertices).length := by
  have hlength := patternCount_le_length (closing vertices)
  rw [patternCount_closing] at hlength
  omega

theorem positionCount_of_plain (h : ∀ v ∈ vertices, v.1 ≠ .negZero ∧ v.2 ≠ .negZero) :
    positionCount vertices = patternCount vertices := by
  have hplain {x y : Double} (hx : x ≠ .negZero) (hy : y ≠ .negZero) (hvalue : x.value = y.value) :
      x = y := by
    rcases Double.eq_or_isZero_of_value_eq hvalue with heq | ⟨hzx, hzy⟩
    · exact heq
    · rw [(Double.eq_zero_or_negZero hzx).resolve_right hx,
        (Double.eq_zero_or_negZero hzy).resolve_right hy]
  rw [positionCount_eq]
  refine Finset.card_image_of_injOn fun v hv w hw hposition => ?_
  obtain ⟨hv1, hv2⟩ := h v (List.mem_toFinset.1 hv)
  obtain ⟨hw1, hw2⟩ := h w (List.mem_toFinset.1 hw)
  obtain ⟨hlat, hlon⟩ := Prod.mk.inj hposition
  exact Prod.ext (hplain hv1 hw1 hlat) (hplain hv2 hw2 hlon)

theorem closing_onGlobe (h : ∀ v ∈ vertices, v.IsOnGlobe) :
    ∀ v ∈ closing vertices, v.IsOnGlobe := by
  intro v hv
  unfold closing at hv
  split at hv
  · exact h v hv
  · rcases List.mem_append.1 hv with hv | hv
    · exact h v hv
    · exact h v (List.mem_of_mem_head? (Option.mem_toList.1 hv))

theorem closing_isClosed (h : vertices ≠ []) :
    IsClosed ((closing vertices).map Vertex.position) := by
  obtain ⟨first, rest, rfl⟩ := List.exists_cons_of_ne_nil h
  unfold closing
  split
  next hclosed => exact hclosed
  next =>
    rw [List.map_append]
    exact ⟨List.cons_ne_nil _ _, List.getLast?_concat.symm⟩

theorem onGlobe_of_close (h : close vertices = .ok ring) : ∀ v ∈ vertices, v.IsOnGlobe := by
  obtain ⟨points, hpoints, -⟩ := bind_eq_ok.1 h
  clear h
  induction vertices generalizing points with
  | nil => exact nofun
  | cons v rest ih =>
    rw [List.mapM_cons] at hpoints
    obtain ⟨p, hp, hrest⟩ := bind_eq_ok.1 hpoints
    obtain ⟨others, hothers, -⟩ := bind_eq_ok.1 hrest
    obtain ⟨made, hmade, -⟩ := bind_eq_ok.1 hp
    obtain ⟨hlat, hlon⟩ := GeoPoint.isWithin_of_make hmade
    intro w hw
    rcases List.mem_cons.1 hw with rfl | hw
    · exact ⟨hlat, hlon⟩
    · exact ih others hothers w hw

theorem close_eq (h : ∀ v ∈ vertices, v.IsOnGlobe) :
    close vertices = if patternCount vertices < 3 then .error degenerate
      else .ok ((closing vertices).map Vertex.toPoint) := by
  unfold close
  rw [mapM_toPoint h]
  simp only [bind, Except.bind, distinctCount_eq]
  split
  next => rfl
  next hcount =>
    obtain ⟨first, last, hfirst, hlast⟩ := exists_ends (ne_nil_of_three (Nat.le_of_not_lt hcount))
    have hclosed := same_ends_iff h hfirst hlast
    rw [List.head?_map, List.getLast?_map, hfirst, hlast]
    change Except.ok (if first.toPoint.same last.toPoint then _ else _) = _
    unfold closing
    by_cases hc : IsClosed (vertices.map Vertex.position)
    · rw [if_pos (hclosed.2 hc), if_pos hc]
    · rw [if_neg (mt hclosed.1 hc), if_neg hc, List.map_append, hfirst]
      rfl

theorem three_of_close (h : close vertices = .ok ring) :
    3 ≤ patternCount vertices ∧ ring = (closing vertices).map Vertex.toPoint := by
  rw [close_eq (onGlobe_of_close h)] at h
  split at h
  · cases h
  next hcount =>
    cases h
    exact ⟨Nat.le_of_not_lt hcount, rfl⟩

theorem opened_of_isClosed (h : ∀ v ∈ vertices, v.IsOnGlobe) (hlong : 1 < vertices.length)
    (hclosed : IsClosed (vertices.map Vertex.position)) :
    opened (vertices.map Vertex.toPoint) = vertices.dropLast := by
  have hne := List.ne_nil_of_length_pos (Nat.zero_lt_of_lt hlong)
  obtain ⟨first, last, hfirst, hlast⟩ := exists_ends hne
  have hsame := (same_ends_iff h hfirst hlast).2 hclosed
  unfold opened
  rw [List.head?_map, List.getLast?_map, hfirst, hlast, List.length_map]
  simp only [Option.map_some, hlong, hsame, decide_true, Bool.and_self, if_true]
  rw [← List.map_dropLast]
  exact map_ofPoint vertices.dropLast

theorem dropLast_closing (vertices : List Vertex) :
    (closing vertices).dropLast =
      if IsClosed (vertices.map Vertex.position) then vertices.dropLast else vertices := by
  unfold closing
  split
  · rfl
  · cases vertices with
    | nil => rfl
    | cons first rest => exact List.dropLast_concat

theorem opened_of_close (h : close vertices = .ok ring) :
    ring.opened = (closing vertices).dropLast := by
  obtain ⟨hthree, rfl⟩ := three_of_close h
  exact opened_of_isClosed (closing_onGlobe (onGlobe_of_close h)) (one_lt_length_closing hthree)
    (closing_isClosed (ne_nil_of_three hthree))

/-- What closing takes it makes a ring that ends where it starts, its vertices in
their order and bit for bit, and opening shows it without the last of them. -/
theorem opened_close (h : close vertices = .ok ring) :
    IsClosed (ring.map Point.position) ∧
    ring = (if IsClosed (vertices.map Vertex.position) then vertices
      else vertices ++ vertices.head?.toList).map (fun v => ⟨v.2, v.1⟩) ∧
    ring.opened =
      if IsClosed (vertices.map Vertex.position) then vertices.dropLast else vertices := by
  obtain ⟨hthree, hring⟩ := three_of_close h
  refine ⟨?_, hring, ?_⟩
  · rw [hring, map_position]
    exact closing_isClosed (ne_nil_of_three hthree)
  · rw [opened_of_close h, dropLast_closing]

/-- A list that ends where it starts, but for the sign of a zero. -/
theorem signed_end_opened :
    let vertices : List Vertex := [(.zero, .zero), (.zero, .ofNat 1), (.ofNat 1, .ofNat 1),
      (.negZero, .zero)]
    ∃ ring, close vertices = .ok ring ∧ IsClosed (ring.map Point.position) ∧
      ring = vertices.map (fun v => ⟨v.2, v.1⟩) ∧ ring.opened = vertices.dropLast := by
  intro vertices
  have hglobe : ∀ v ∈ vertices, v.IsOnGlobe := by decide +kernel
  have hclosed : IsClosed (vertices.map Vertex.position) := by decide +kernel
  have hclose : close vertices = .ok (vertices.map Vertex.toPoint) := by
    rw [close_eq hglobe, if_neg (by decide +kernel), closing, if_pos hclosed]
  obtain ⟨hring, hvertices, hopened⟩ := opened_close hclose
  rw [if_pos hclosed] at hvertices hopened
  exact ⟨_, hclose, hring, hvertices, hopened⟩

/-- Vertices on the globe are refused where fewer than three of them are different
as patterns. This is so wherever fewer than three are different as positions
unless zeros of both signs make up for it. -/
theorem close_refuses_iff (h : ∀ v ∈ vertices, v.IsOnGlobe) :
    (∀ e, close vertices = .error e ↔ e = degenerate ∧ patternCount vertices < 3) ∧
    positionCount vertices ≤ patternCount vertices ∧
    ((∀ v ∈ vertices, v.1 ≠ .negZero ∧ v.2 ≠ .negZero) →
      positionCount vertices = patternCount vertices) := by
  refine ⟨fun e => ?_, positionCount_le vertices, positionCount_of_plain⟩
  rw [close_eq h]
  split
  next hcount =>
    constructor
    · intro he
      cases he
      exact ⟨rfl, hcount⟩
    · rintro ⟨rfl, -⟩
      rfl
  next hcount =>
    constructor
    · intro he
      cases he
    · rintro ⟨-, hfew⟩
      exact absurd hfew hcount

/-- There and back along one line. -/
theorem line_refused :
    let vertices : List Vertex := [(.zero, .zero), (.zero, .ofNat 1), (.zero, .zero)]
    (∀ v ∈ vertices, v.IsOnGlobe) ∧ close vertices = .error degenerate := by
  intro vertices
  have hglobe : ∀ v ∈ vertices, v.IsOnGlobe := by decide +kernel
  exact ⟨hglobe, ((close_refuses_iff hglobe).1 degenerate).2 ⟨rfl, by decide +kernel⟩⟩

/-- Two positions and a sign make a ring. -/
theorem two_positions_accepted :
    let vertices : List Vertex := [(.zero, .zero), (.negZero, .zero), (.ofNat 1, .ofNat 1)]
    (∀ v ∈ vertices, v.IsOnGlobe) ∧ positionCount vertices = 2 ∧
      close vertices = .ok ((vertices ++ [(Double.zero, Double.zero)]).map Vertex.toPoint) := by
  intro vertices
  have hglobe : ∀ v ∈ vertices, v.IsOnGlobe := by decide +kernel
  have hopen : ¬ IsClosed (vertices.map Vertex.position) := by decide +kernel
  refine ⟨hglobe, by decide +kernel, ?_⟩
  rw [close_eq hglobe, if_neg (by decide +kernel), closing, if_neg hopen]
  rfl

namespace IsOpen

theorem not_isClosed (h : IsOpen vertices) : ¬ IsClosed (vertices.map Vertex.position) := by
  intro hclosed
  have hne : vertices ≠ [] := by
    rintro rfl
    exact hclosed.1 rfl
  obtain ⟨first, last, hfirst, hlast⟩ := exists_ends hne
  have hsame := (same_ends_iff h.onGlobe hfirst hlast).2 hclosed
  rw [h.apart first hfirst last hlast] at hsame
  cases hsame

theorem three_le (h : IsOpen vertices) : 3 ≤ patternCount vertices := by
  obtain ⟨a, ha, b, hb, c, hc, hdistinct⟩ := h.three
  refine Finset.two_lt_card.2 ⟨a, ?_, b, ?_, c, ?_, hdistinct⟩
  · exact List.mem_toFinset.2 ha
  · exact List.mem_toFinset.2 hb
  · exact List.mem_toFinset.2 hc

theorem close_eq (h : IsOpen vertices) :
    close vertices = .ok ((closing vertices).map Vertex.toPoint) := by
  rw [Ring.close_eq h.onGlobe, if_neg (Nat.not_lt.2 h.three_le)]

theorem opened_closing (h : IsOpen vertices) :
    opened ((closing vertices).map Vertex.toPoint) = vertices := by
  rw [opened_of_close h.close_eq, dropLast_closing, if_neg h.not_isClosed]

end IsOpen

end Ring
end DocSql
