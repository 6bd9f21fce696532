import DocSql.Proofs.Entries
import DocSql.Update.Basic

/-!
Paths into JSON values, as dotted keys write them. Main statements: what a
lookup finds below, above and beside the path at which a value was put; that
values may be put beside each other in either order; and that a key comes before
those whose segments go on from its own.
-/
namespace DocSql

namespace Sql

variable (separator : Char)

theorem not_mem_splitOn (text : List Char) :
    ∀ part ∈ text.splitOn separator, separator ∉ part := by
  induction text with
  | nil => simp
  | cons c rest ih =>
    rw [List.splitOn_cons_eq_if_modifyHead]
    split
    · exact List.forall_mem_cons.2 ⟨List.not_mem_nil, ih⟩
    next hc =>
      obtain ⟨first, others, hrest⟩ :=
        List.exists_cons_of_ne_nil (List.splitOn_ne_nil separator rest)
      rw [hrest] at ih ⊢
      obtain ⟨hfirst, hothers⟩ := List.forall_mem_cons.1 ih
      refine List.forall_mem_cons.2 ⟨?_, hothers⟩
      exact List.not_mem_cons_of_ne_of_not_mem (fun h => hc (beq_iff_eq.2 h.symm)) hfirst

theorem segments_ne_nil (key : String) : segments key ≠ [] := by
  simp [segments]

theorem intercalate_segments (key : String) : ".".intercalate (segments key) = key := by
  rw [← String.toList_inj, String.toList_intercalate, segments, List.map_map]
  have hid : (String.toList ∘ String.ofList) = id := funext fun _ => String.toList_ofList
  rw [hid, List.map_id]
  exact List.intercalate_splitOn '.'

theorem not_mem_segments (key : String) : ∀ segment ∈ segments key, '.' ∉ segment.toList := by
  rw [segments, List.forall_mem_map]
  intro part hpart
  rw [String.toList_ofList]
  exact not_mem_splitOn '.' key.toList part hpart

theorem eq_of_segments_singleton {key field : String} (h : segments key = [field]) :
    key = field := by
  rw [← intercalate_segments key, h]
  rfl

theorem segments_append (before behind : String) :
    segments (before ++ "." ++ behind) = segments before ++ segments behind := by
  simp only [segments, String.toList_append, List.append_assoc]
  change ((before.toList ++ '.' :: behind.toList).splitOn '.').map String.ofList = _
  rw [List.splitOn_append_cons_self, List.map_append]

theorem eq_of_segments_pair {name field key : String} (h : segments name = [field, key]) :
    name = field ++ "." ++ key := by
  rw [← intercalate_segments name, h]
  rfl

theorem eq_and_eq_of_segments_pair {before behind field key : String}
    (h : segments (before ++ "." ++ behind) = [field, key]) : before = field ∧ behind = key := by
  rw [segments_append] at h
  obtain ⟨first, more, hfirst⟩ := List.exists_cons_of_ne_nil (segments_ne_nil before)
  obtain ⟨second, rest, hsecond⟩ := List.exists_cons_of_ne_nil (segments_ne_nil behind)
  have hmore : more = [] := by
    have hlength := congrArg List.length h
    rw [hfirst, hsecond] at hlength
    simp only [List.length_append, List.length_cons, List.length_nil] at hlength
    exact List.length_eq_zero_iff.1 (by omega)
  subst hmore
  rw [hfirst] at h
  obtain ⟨rfl, hbehind⟩ := List.cons.inj h
  exact ⟨eq_of_segments_singleton hfirst, eq_of_segments_singleton hbehind⟩

theorem intercalate_begins {parts others : List (List Char)}
    (h : parts <+: others) :
    [separator].intercalate parts <+: [separator].intercalate others := by
  induction parts generalizing others with
  | nil => exact List.nil_prefix
  | cons part rest ih =>
    obtain ⟨more, rfl, hmore⟩ := List.cons_prefix_iff.1 h
    cases rest with
    | nil =>
      cases more with
      | nil => exact List.prefix_rfl
      | cons next more =>
        rw [List.intercalate_singleton, List.intercalate_cons_cons, List.append_assoc]
        exact List.prefix_append ..
    | cons next rest =>
      obtain ⟨more, rfl, -⟩ := List.cons_prefix_iff.1 hmore
      rw [List.intercalate_cons_cons, List.intercalate_cons_cons, List.prefix_append_right_inj]
      exact ih hmore

theorem not_lt_of_begins {key other : String} (h : segments key <+: segments other) :
    ¬other < key := by
  have hle := (intercalate_begins '.' (h.map String.toList)).le
  rw [← intercalate_segments key, ← intercalate_segments other, String.lt_iff,
    String.toList_intercalate, String.toList_intercalate]
  exact List.not_lt.2 hle

theorem not_begins_of_sorted {α : Type} {members : List (String × α)}
    (h : (Entries.keys members).Pairwise (· < ·)) :
    members.Pairwise fun earlier later => ¬segments later.1 <+: segments earlier.1 :=
  (List.pairwise_map.1 h).imp fun hlt hbegins => not_lt_of_begins hbegins hlt

end Sql

def Json.at? (value : Json) : List String → Option Json
  | [] => some value
  | name :: path => (value.get? name).bind fun inner => inner.at? path

namespace Json

@[simp] theorem at?_nil (value : Json) : value.at? [] = some value := rfl

theorem at?_obj_cons (members : Entries Json) (name : String) (path : List String) :
    (obj members).at? (name :: path) =
      (Entries.find? members name).bind fun inner => inner.at? path := rfl

end Json

namespace Patch

def childOf (target : Entries Json) (key : String) : Entries Json :=
  ((Entries.find? target key).bind Json.obj?).getD []

theorem insertPath_cons_cons (target : Entries Json) (key next : String) (rest : List String)
    (value : Json) : insertPath target (key :: next :: rest) value =
      Entries.insert target key (.obj (insertPath (childOf target key) (next :: rest) value)) :=
  rfl

variable (target : Entries Json) {path other : List String} (value : Json)

theorem at?_insertPath_below (hne : path ≠ []) (inner : List String) :
    (Json.obj (insertPath target path value)).at? (path ++ inner) = value.at? inner := by
  induction path generalizing target with
  | nil => exact absurd rfl hne
  | cons key rest ih =>
    cases rest with
    | nil =>
      rw [List.cons_append, Json.at?_obj_cons, insertPath, Entries.find?_insert_self]
      rfl
    | cons next rest =>
      rw [List.cons_append, Json.at?_obj_cons, insertPath_cons_cons, Entries.find?_insert_self]
      exact ih _ (List.cons_ne_nil _ _)

theorem at?_insertPath_above (h : other <+: path) (hne : other ≠ path) :
    ∃ held, (Json.obj (insertPath target path value)).at? other = some (.obj held) := by
  induction path generalizing target other with
  | nil => exact absurd (List.prefix_nil.1 h) hne
  | cons key rest ih =>
    cases other with
    | nil => exact ⟨_, rfl⟩
    | cons name more =>
      obtain ⟨rfl, hmore⟩ := List.cons_prefix_cons.1 h
      have hrest : more ≠ rest := fun heq => hne (heq ▸ rfl)
      cases rest with
      | nil => exact absurd (List.prefix_nil.1 hmore) hrest
      | cons next rest =>
        rw [Json.at?_obj_cons, insertPath_cons_cons, Entries.find?_insert_self]
        exact ih _ hmore hrest

theorem at?_insertPath_beside (hb : ¬path <+: other) (ha : ¬other <+: path) :
    (Json.obj (insertPath target path value)).at? other = (Json.obj target).at? other := by
  induction path generalizing target other with
  | nil => exact absurd List.nil_prefix hb
  | cons key rest ih =>
    cases other with
    | nil => exact absurd List.nil_prefix ha
    | cons name more =>
      rw [Json.at?_obj_cons, Json.at?_obj_cons]
      by_cases hkey : key = name
      · subst hkey
        have hb' : ¬rest <+: more := fun h => hb (List.cons_prefix_cons.2 ⟨rfl, h⟩)
        have ha' : ¬more <+: rest := fun h => ha (List.cons_prefix_cons.2 ⟨rfl, h⟩)
        cases rest with
        | nil => exact absurd List.nil_prefix hb'
        | cons next rest =>
          rw [insertPath_cons_cons, Entries.find?_insert_self, Option.bind_some, ih _ hb' ha']
          -- What is no object has no members, and neither has the empty one put in its place.
          cases more with
          | nil => exact absurd List.nil_prefix ha'
          | cons name more =>
            unfold childOf
            rw [Json.at?_obj_cons]
            cases hfound : Entries.find? target key with
            | none => rfl
            | some held => cases held <;> rfl
      · cases rest with
        | nil => rw [insertPath, Entries.find?_insert_other _ _ hkey]
        | cons next rest => rw [insertPath_cons_cons, Entries.find?_insert_other _ _ hkey]

/-- What is put under the first key of a path: the value itself where the path ends,
and else an object that goes on from the one there. -/
def placed (child : Entries Json) (value : Json) : List String → Json
  | [] => value
  | path => .obj (insertPath child path value)

theorem insertPath_cons (key : String) (rest : List String) :
    insertPath target (key :: rest) value =
      Entries.insert target key (placed (childOf target key) value rest) := by
  cases rest with
  | nil => rfl
  | cons next rest => rfl

theorem placed_of_ne_nil (child : Entries Json) {rest : List String} (h : rest ≠ []) :
    placed child value rest = .obj (insertPath child rest value) := by
  obtain ⟨next, more, rfl⟩ := List.exists_cons_of_ne_nil h
  rfl

theorem childOf_insert_self (key : String) (child : Entries Json) :
    childOf (Entries.insert target key (.obj child)) key = child := by
  rw [childOf, Entries.find?_insert_self]
  rfl

theorem childOf_insert_other {key name : String} (h : key ≠ name) :
    childOf (Entries.insert target key value) name = childOf target name := by
  rw [childOf, childOf, Entries.find?_insert_other _ _ h]

theorem insertPath_comm (second : Json) (hb : ¬path <+: other) (ha : ¬other <+: path) :
    insertPath (insertPath target path value) other second =
      insertPath (insertPath target other second) path value := by
  induction path generalizing target other with
  | nil => exact absurd List.nil_prefix hb
  | cons key rest ih =>
    cases other with
    | nil => exact absurd List.nil_prefix ha
    | cons name more =>
      simp only [insertPath_cons]
      by_cases hkey : key = name
      · subst hkey
        rw [List.prefix_cons_inj] at hb ha
        have hrest : rest ≠ [] := by
          rintro rfl
          exact hb List.nil_prefix
        have hmore : more ≠ [] := by
          rintro rfl
          exact ha List.nil_prefix
        -- Both orders start from one child: what is no object is replaced by the first.
        simp only [placed_of_ne_nil _ _ hrest, placed_of_ne_nil _ _ hmore, childOf_insert_self,
          Entries.insert_insert]
        rw [ih _ hb ha]
      · rw [childOf_insert_other _ _ hkey, childOf_insert_other _ _ (Ne.symm hkey),
          Entries.insert_comm _ _ _ hkey]

/-- A value is found at the path at which it was put. Beside the path every lookup finds
what it found before, and whether something is put there before or behind makes no
difference, even where values that are no objects have to give way. -/
theorem insertPath_frame (members : Entries Json) (path : String) (value : Json) :
    (Json.obj (insertPath members (Sql.segments path) value)).at? (Sql.segments path) =
      some value ∧
    ∀ other : String, ¬Sql.segments path <+: Sql.segments other →
      ¬Sql.segments other <+: Sql.segments path →
      (Json.obj (insertPath members (Sql.segments path) value)).at? (Sql.segments other) =
        (Json.obj members).at? (Sql.segments other) ∧
      ∀ second : Json,
        insertPath (insertPath members (Sql.segments path) value) (Sql.segments other) second =
          insertPath (insertPath members (Sql.segments other) second) (Sql.segments path) value := by
  refine ⟨?_, fun other hb ha => ⟨?_, fun second => ?_⟩⟩
  · have hbelow := at?_insertPath_below members value (Sql.segments_ne_nil path) []
    rwa [List.append_nil] at hbelow
  · exact at?_insertPath_beside members value hb ha
  · exact insertPath_comm members value second hb ha

/-- Two paths that meet a text on their way. -/
theorem inserted_over_text :
    ¬Sql.segments "a.b" <+: Sql.segments "a.c.d" ∧ ¬Sql.segments "a.c.d" <+: Sql.segments "a.b" ∧
    (Json.obj (insertPath [("a", .str "x")] (Sql.segments "a.b") .null)).at?
      (Sql.segments "a.c.d") = none ∧
    insertPath (insertPath [("a", .str "x")] (Sql.segments "a.b") .null)
        (Sql.segments "a.c.d") (.bool true) =
      insertPath (insertPath [("a", .str "x")] (Sql.segments "a.c.d") (.bool true))
        (Sql.segments "a.b") .null := by
  have hb : ¬Sql.segments "a.b" <+: Sql.segments "a.c.d" := by decide
  have ha : ¬Sql.segments "a.c.d" <+: Sql.segments "a.b" := by decide
  obtain ⟨hsame, hcomm⟩ := (insertPath_frame [("a", .str "x")] "a.b" .null).2 "a.c.d" hb ha
  exact ⟨hb, ha, hsame, hcomm (.bool true)⟩

end Patch
end DocSql
