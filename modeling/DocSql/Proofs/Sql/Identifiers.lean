import DocSql.Proofs.Sql.JsonObjects
import DocSql.Proofs.Update.Paths

/-!
Names in the text of a statement. Quoting keeps names apart, and a quoted name is
never how a dotted field is written, which ends in the literal of a key.
-/
namespace DocSql.Sql

theorem enclose_toList (quote : Char) (text : String) :
    (enclose quote text).toList = quote :: (doubled quote text.toList ++ [quote]) := by
  rw [enclose, String.toList_ofList]

theorem enclose_injective (quote : Char) : Function.Injective (enclose quote) := by
  intro a b h
  have hlist := congrArg (fun text => unquoted quote text.toList.tail) h
  simp only [enclose_toList, List.tail_cons, unquoted_doubled] at hlist
  exact String.toList_inj.1 hlist

theorem identifier_injective : Function.Injective identifier := enclose_injective '"'

theorem enclose_getLast? (quote : Char) (text : String) :
    (enclose quote text).toList.getLast? = some quote := by
  rw [enclose_toList, ← List.cons_append, List.getLast?_append_of_ne_nil _ (by simp)]
  rfl

theorem segments_of_isDotted {field : String} (h : isDotted field) :
    ∃ column key path, segments field = column :: key :: path := by
  obtain ⟨before, behind, hfield⟩ := List.append_of_mem (List.contains_iff_mem.1 h)
  obtain ⟨column, others, hbefore⟩ :=
    List.exists_cons_of_ne_nil (segments_ne_nil (String.ofList before))
  obtain ⟨key, path, hbehind⟩ :=
    List.exists_cons_of_ne_nil (segments_ne_nil (String.ofList behind))
  have hjoined : field = String.ofList before ++ "." ++ String.ofList behind := by
    rw [← String.toList_inj, hfield]
    simp
  rw [hjoined, segments_append, hbefore, hbehind]
  cases others with
  | nil => exact ⟨column, key, path, rfl⟩
  | cons next others => exact ⟨column, next, others ++ key :: path, rfl⟩

theorem jsonTextPath_getLast? {field : String} (h : isDotted field) :
    (jsonTextPath field).toList.getLast? = some '\'' := by
  obtain ⟨column, key, path, hsegments⟩ := segments_of_isDotted h
  have hliteral (text : String) : (literal text).toList ≠ [] := by
    rw [literal, enclose_toList]
    exact List.cons_ne_nil _ _
  unfold jsonTextPath
  rw [hsegments]
  dsimp only
  rw [String.toList_append, List.getLast?_append_of_ne_nil _ (hliteral _), literal,
    enclose_getLast?]

theorem jsonTextPath_ne_identifier {field : String} (h : isDotted field) (name : String) :
    jsonTextPath field ≠ identifier name := by
  intro hsame
  have hlast := jsonTextPath_getLast? h
  rw [hsame, identifier, enclose_getLast?] at hlast
  cases hlast

end DocSql.Sql
