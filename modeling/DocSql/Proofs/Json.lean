import DocSql.Json.Basic
import DocSql.Proofs.Entries

/-!
JSON values as they are read. Reading orders the members of every object, so at
every depth each name comes once.
-/
namespace DocSql.Json

/-- A value as reading leaves it. -/
def IsRead (value : Json) : Prop := ∃ written : Json, value = written.sorted

theorem isRead_str (text : String) : (str text).IsRead := ⟨str text, rfl⟩

theorem exists_sortedMembers_iff {members : List (String × Json)} :
    (∃ given, members = sortedMembers given) ↔ ∀ entry ∈ members, entry.2.IsRead := by
  constructor
  · rintro ⟨given, rfl⟩
    induction given with
    | nil => exact nofun
    | cons member rest ih => exact List.forall_mem_cons.2 ⟨⟨member.2, rfl⟩, ih⟩
  · intro h
    induction members with
    | nil => exact ⟨[], rfl⟩
    | cons member rest ih =>
      obtain ⟨⟨written, hwritten⟩, hrest⟩ := List.forall_mem_cons.1 h
      obtain ⟨given, hgiven⟩ := ih hrest
      refine ⟨(member.1, written) :: given, ?_⟩
      rw [sortedMembers, ← hwritten, ← hgiven]

theorem isRead_obj_iff {members : List (String × Json)} :
    (obj members).IsRead ↔
      (Entries.keys members).Pairwise (· < ·) ∧ ∀ entry ∈ members, entry.2.IsRead := by
  constructor
  · rintro ⟨written, hwritten⟩
    cases written with
    | obj given =>
      rw [sorted, object] at hwritten
      cases hwritten
      exact ⟨Entries.ofList_sorted _, fun entry hentry =>
        exists_sortedMembers_iff.1 ⟨given, rfl⟩ entry (Entries.mem_ofList hentry)⟩
    | null | bool _ | num _ | str _ | arr _ => simp [sorted] at hwritten
  · rintro ⟨hsorted, hread⟩
    obtain ⟨given, rfl⟩ := exists_sortedMembers_iff.2 hread
    exact ⟨obj given, by rw [sorted, object, Entries.ofList_of_sorted hsorted]⟩

theorem isRead_arr_iff {items : List Json} : (arr items).IsRead ↔ ∀ item ∈ items, item.IsRead := by
  constructor
  · rintro ⟨written, hwritten⟩
    cases written with
    | arr given =>
      rw [sorted] at hwritten
      cases hwritten
      induction given with
      | nil => exact nofun
      | cons item rest ih => exact List.forall_mem_cons.2 ⟨⟨item, rfl⟩, ih⟩
    | null | bool _ | num _ | str _ | obj _ => simp [sorted, object] at hwritten
  · intro h
    induction items with
    | nil => exact ⟨arr [], rfl⟩
    | cons item rest ih =>
      obtain ⟨⟨written, hwritten⟩, hrest⟩ := List.forall_mem_cons.1 h
      obtain ⟨given, hgiven⟩ := ih hrest
      cases given with
      | arr given =>
        rw [sorted] at hgiven
        cases hgiven
        exact ⟨arr (written :: given), by rw [sorted, sortedItems, ← hwritten]⟩
      | null | bool _ | num _ | str _ | obj _ => simp [sorted, object] at hgiven

end DocSql.Json
