import DocSql.Proofs.Storage.ColumnTypes
import DocSql.Proofs.Storage.RoundTrip

/-!
A stored polygon that is shown and stored again. Showing leaves out the last
vertex and storing adds the first one behind the others, so a ring comes back
where the last vertex is the first one, bit for bit, and the one before it is
somewhere else. Main statement: `Datum.polygon_rewritten_iff`.
-/
namespace DocSql

namespace Ring

/-- It ends with its first vertex, and does not end there without it. -/
structure ClosesOnce (ring : Ring) : Prop where
  last : ring.getLast? = ring.head?
  once : ¬ IsClosed (ring.dropLast.map Point.position)

def document (vertices : List Vertex) : Json :=
  .object [("__type", .str "Polygon"), ("coordinates", .arr (vertices.map vertexToJson))]

variable {vertices : List Vertex} {ring : Ring}

theorem dropLast_append_head {α : Type} {items : List α} (hne : items ≠ [])
    (hlast : items.getLast? = items.head?) : items.dropLast ++ items.head?.toList = items := by
  rw [← hlast, List.getLast?_eq_getLast_of_ne_nil hne, Option.toList_some,
    List.dropLast_concat_getLast]

theorem opened_onGlobe (h : close vertices = .ok ring) : ∀ v ∈ ring.opened, v.IsOnGlobe := by
  rw [opened_of_close h]
  intro v hv
  exact closing_onGlobe (onGlobe_of_close h) v (List.mem_of_mem_dropLast hv)

theorem map_opened (h : close vertices = .ok ring) :
    ring.opened.map Vertex.toPoint = ring.dropLast := by
  rw [opened_of_close h, (three_of_close h).2, List.map_dropLast]

theorem one_lt_length (h : close vertices = .ok ring) : 1 < ring.length := by
  obtain ⟨hthree, rfl⟩ := three_of_close h
  rw [List.length_map]
  exact one_lt_length_closing hthree

theorem close_opened (h : close vertices = .ok ring) :
    close ring.opened = if patternCount ring.opened < 3 then .error degenerate
      else if IsClosed (ring.dropLast.map Point.position) then .ok ring.dropLast
      else .ok (ring.dropLast ++ ring.head?.toList) := by
  have hpositions : ring.opened.map Vertex.position = ring.dropLast.map Point.position := by
    rw [← map_opened h, map_position]
  have hlong := one_lt_length h
  have hhead : ring.opened.head?.toList.map Vertex.toPoint = ring.head?.toList := by
    rw [← Option.toList_map, ← List.head?_map, map_opened h, List.head?_dropLast, if_pos hlong]
  rw [close_eq (opened_onGlobe h)]
  split
  · rfl
  · unfold closing
    rw [hpositions]
    split
    · rw [map_opened h]
    · rw [List.map_append, map_opened h, hhead]

theorem three_opened (h : close vertices = .ok ring) (hlast : ring.getLast? = ring.head?) :
    3 ≤ patternCount ring.opened := by
  obtain ⟨hthree, hring⟩ := three_of_close h
  have hlong := one_lt_length_closing hthree
  have hend : (closing vertices).getLast? = (closing vertices).head? := by
    rw [hring, List.getLast?_map, List.head?_map] at hlast
    exact Option.map_injective toPoint_injective hlast
  have hwhole := dropLast_append_head (List.ne_nil_of_length_pos (by omega)) hend
  have hhead : (closing vertices).dropLast.head? = (closing vertices).head? := by
    rw [List.head?_dropLast, if_pos hlong]
  rw [opened_of_close h, ← patternCount_append_head, hhead, hwhole, patternCount_closing]
  exact hthree

theorem close_opened_iff (h : close vertices = .ok ring) :
    close ring.opened = .ok ring ↔ ring.ClosesOnce := by
  have hlong := one_lt_length h
  have hne := List.ne_nil_of_length_pos (Nat.zero_lt_of_lt hlong)
  obtain ⟨first, -, hfirst, -⟩ := exists_ends hne
  rw [close_opened h]
  constructor
  · intro hsame
    split at hsame
    · cases hsame
    · split at hsame
      · have hlength := congrArg List.length (Except.ok.inj hsame)
        rw [List.length_dropLast] at hlength
        omega
      next honce =>
        refine ⟨?_, honce⟩
        have hlast := congrArg List.getLast? (Except.ok.inj hsame)
        rw [hfirst, Option.toList_some, List.getLast?_concat] at hlast
        rw [hfirst, hlast]
  · rintro ⟨hlast, honce⟩
    rw [if_neg (Nat.not_lt.2 (three_opened h hlast)), if_neg honce, dropLast_append_head hne hlast]

theorem verticesOfJson_shown (h : ∀ v ∈ vertices, v.IsOnGlobe) :
    verticesOfJson (.arr (vertices.map vertexToJson)) = .ok vertices := by
  rw [vertexToJson_onGlobe h]
  exact verticesOfJson_floats vertices

theorem ofJson_document (h : ∀ v ∈ vertices, v.IsOnGlobe) :
    ofJson (document vertices) = close vertices := by
  rw [document, Json.object_of_sorted ["coordinates"] rfl (by decide)]
  change verticesOfJson _ >>= close = _
  rw [verticesOfJson_shown h]
  rfl

theorem close_of_ofJson {value : Json} (h : ofJson value = .ok ring) :
    ∃ vertices, close vertices = .ok ring := by
  unfold ofJson at h
  split at h
  · cases h
  · obtain ⟨vertices, -, hclose⟩ := bind_eq_ok.1 h
    exact ⟨vertices, hclose⟩

end Ring

namespace Datum

open DocSql.Ring (Vertex IsClosed degenerate document patternCount)

variable {name : String} {value : Json} {raw : Datum}

theorem polygon_cases (h : encode name (some .polygon) value = .ok raw) :
    raw = .null ∨
    (∃ items, raw = .textArray items ∧ Schema.isPermissionField name) ∨
    ∃ vertices ring, raw = .polygon ring ∧ Schema.isPermissionField name = false ∧
      Ring.close vertices = .ok ring := by
  unfold encode at h
  split at h
  · cases h
    exact .inl rfl
  · split at h
    next hp =>
      obtain ⟨items, hitems⟩ := encodeTextArray_form h
      exact .inr (.inl ⟨items, hitems, hp⟩)
    next hp =>
      obtain ⟨ring, hring, rfl⟩ := map_eq_ok.1 h
      obtain ⟨vertices, hclose⟩ := Ring.close_of_ofJson hring
      exact .inr (.inr ⟨vertices, ring, rfl, Bool.eq_false_iff.2 hp, hclose⟩)

theorem encode_document {vertices : List Vertex} (hp : Schema.isPermissionField name = false)
    (h : ∀ v ∈ vertices, v.IsOnGlobe) :
    encode name (some .polygon) (document vertices) = polygon <$> Ring.close vertices := by
  have hnull : (document vertices).isNull = false := rfl
  unfold encode
  rw [hnull, hp]
  exact congrArg (polygon <$> ·) (Ring.ofJson_document h)

theorem encode_closed {vertices : List Vertex} (hp : Schema.isPermissionField name = false)
    (h : ∀ v ∈ vertices, v.IsOnGlobe) (hthree : 3 ≤ patternCount vertices)
    (hclosed : IsClosed (vertices.map Vertex.position)) :
    encode name (some .polygon) (document vertices) =
      .ok (.polygon (vertices.map Vertex.toPoint)) := by
  rw [encode_document hp h, Ring.close_eq h, if_neg (Nat.not_lt.2 hthree), Ring.closing,
    if_pos hclosed]
  rfl

/-- A stored polygon is shown and stored again. Nothing changes where its ring
closes once. Where it ends twice where it starts a vertex is lost; where its last
zero has another sign it takes that of the first one, or is refused. -/
theorem polygon_rewritten_iff (h : encode name (some .polygon) value = .ok raw) :
    ∃ shown, raw.decode .polygon = .ok shown ∧
      (∀ ring, raw = .polygon ring → encode name (some .polygon) shown =
        if patternCount ring.opened < 3 then .error degenerate
        else if IsClosed (ring.dropLast.map Point.position) then .ok (.polygon ring.dropLast)
        else .ok (.polygon (ring.dropLast ++ ring.head?.toList))) ∧
      (encode name (some .polygon) shown = .ok raw ↔
        ∀ ring, raw = .polygon ring → ring.ClosesOnce) := by
  rcases polygon_cases h with rfl | ⟨items, rfl, hp⟩ | ⟨vertices, ring, rfl, hp, hclose⟩
  · exact ⟨.null, rfl, nofun, iff_of_true rfl nofun⟩
  · refine ⟨.arr (items.map .str), rfl, nofun, iff_of_true ?_ nofun⟩
    unfold encode
    rw [hp]
    exact encodeTextArray_texts name items
  · have hencode : encode name (some .polygon) ring.toJson = polygon <$> Ring.close ring.opened :=
      encode_document hp (Ring.opened_onGlobe hclose)
    refine ⟨ring.toJson, rfl, ?_, ?_⟩
    · rintro _ ⟨⟩
      rw [hencode, Ring.close_opened hclose]
      split
      · rfl
      · split
        · rfl
        · rfl
    · rw [hencode, map_eq_ok]
      constructor
      · rintro ⟨_, hsame, ⟨⟩⟩ _ ⟨⟩
        exact (Ring.close_opened_iff hclose).1 hsame
      · intro honce
        exact ⟨ring, (Ring.close_opened_iff hclose).2 (honce ring rfl), rfl⟩

/-- A triangle whose document repeats the first vertex. -/
theorem closed_triangle_rewritten :
    let vertices : List Vertex :=
      [(.zero, .zero), (.zero, .ofNat 1), (.ofNat 1, .ofNat 1), (.zero, .zero)]
    ∃ raw shown, encode "area" (some .polygon) (document vertices) = .ok raw ∧
      raw.decode .polygon = .ok shown ∧ encode "area" (some .polygon) shown = .ok raw := by
  intro vertices
  have hglobe : ∀ v ∈ vertices, v.IsOnGlobe := by decide +kernel
  have hclosed : IsClosed (vertices.map Vertex.position) := by decide +kernel
  have hencode := encode_closed (show Schema.isPermissionField "area" = false from rfl) hglobe
    (by decide +kernel) hclosed
  obtain ⟨shown, hshown, -, hsame⟩ := polygon_rewritten_iff hencode
  refine ⟨_, shown, hencode, hshown, hsame.2 ?_⟩
  rintro _ ⟨⟩
  exact ⟨by decide +kernel, by decide +kernel⟩

/-- A triangle whose document repeats the first vertex twice. -/
theorem twice_closed_triangle_shortened :
    let vertices : List Vertex :=
      [(.zero, .zero), (.zero, .ofNat 1), (.ofNat 1, .ofNat 1), (.zero, .zero), (.zero, .zero)]
    encode "area" (some .polygon) (document vertices) =
      .ok (.polygon (vertices.map Vertex.toPoint)) ∧
    decode .polygon (.polygon (vertices.map Vertex.toPoint)) = .ok (document vertices.dropLast) ∧
    encode "area" (some .polygon) (document vertices.dropLast) =
      .ok (.polygon (vertices.dropLast.map Vertex.toPoint)) ∧
    vertices.dropLast.map Vertex.toPoint ≠ vertices.map Vertex.toPoint := by
  intro vertices
  have hglobe : ∀ v ∈ vertices, v.IsOnGlobe := by decide +kernel
  have hglobe' : ∀ v ∈ vertices.dropLast, v.IsOnGlobe := by decide +kernel
  have hclosed : IsClosed (vertices.map Vertex.position) := by decide +kernel
  have hclosed' : IsClosed (vertices.dropLast.map Vertex.position) := by decide +kernel
  refine ⟨encode_closed rfl hglobe (by decide +kernel) hclosed, ?_,
    encode_closed rfl hglobe' (by decide +kernel) hclosed', by decide +kernel⟩
  change Except.ok (document (Ring.opened _)) = _
  rw [Ring.opened_of_isClosed hglobe (by decide) hclosed]

end Datum
end DocSql
