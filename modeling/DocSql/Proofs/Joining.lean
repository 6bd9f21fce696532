/-!
Parts joined by a separator that may stand within a part as well. What is joined
tells the pieces between separators and no more, so two lists of parts are joined
to the same if and only if they have the same pieces.
-/
namespace DocSql

variable {α : Type} [BEq α] [LawfulBEq α]

def piecesOf (separator : α) (parts : List (List α)) : List (List α) :=
  parts.flatMap fun part => part.splitOn separator

theorem splitOn_joined (separator : α) {parts : List (List α)} (hne : parts ≠ []) :
    ([separator].intercalate parts).splitOn separator = piecesOf separator parts := by
  induction parts with
  | nil => exact absurd rfl hne
  | cons part rest ih =>
    cases rest with
    | nil => simp [piecesOf]
    | cons second rest =>
      have hrest := ih (List.cons_ne_nil _ _)
      rw [List.intercalate_cons_cons, List.append_assoc, List.singleton_append,
        List.splitOn_append_cons_self, hrest]
      rfl

theorem joined_eq_iff (separator : α) {parts others : List (List α)} (hp : parts ≠ [])
    (ho : others ≠ []) : [separator].intercalate parts = [separator].intercalate others ↔
      piecesOf separator parts = piecesOf separator others := by
  rw [← splitOn_joined separator hp, ← splitOn_joined separator ho]
  constructor
  · intro h
    rw [h]
  · intro h
    have hback := congrArg [separator].intercalate h
    rwa [List.intercalate_splitOn, List.intercalate_splitOn] at hback

theorem piecesOf_plain {separator : α} {parts : List (List α)}
    (h : ∀ part ∈ parts, separator ∉ part) : piecesOf separator parts = parts := by
  induction parts with
  | nil => rfl
  | cons part rest ih =>
    obtain ⟨hpart, hrest⟩ := List.forall_mem_cons.1 h
    rw [piecesOf, List.flatMap_cons, List.splitOn_eq_singleton hpart]
    exact congrArg _ (ih hrest)

end DocSql
