import DocSql.Proofs.Sql.Binding

/-!
Putting final texts together. What each part shows adds up from left to right,
as long as plain text stands between the parts.
-/
namespace DocSql.Sql

theorem numbered_unmarked {inside : Option Char} {text : List Char}
    (h : markerCount inside text = 0) (next : Nat) : numbered inside next text = text := by
  induction text generalizing inside with
  | nil => rfl
  | cons c rest ih =>
    unfold markerCount at h
    obtain ⟨hc, hrest⟩ := Nat.add_eq_zero_iff.1 h
    have hmark : ¬(inside = none ∧ c = '?') := by
      intro hc'
      rw [if_pos hc'] at hc
      exact absurd hc (by decide)
    rw [numbered, if_neg hmark, ih hrest]

theorem Aligned.shows_nothing {text : List Char} (h : Aligned text 0) : Shows text [] := by
  have hshows := h.shows 0
  rwa [numbered_unmarked h.markers] at hshows

theorem identifier_shows (name : String) : Shows (identifier name).toList [] :=
  (identifier_aligned name).shows_nothing

theorem number_named (name : String) {joint : String} (hj : isPlain joint.toList) (next : Nat)
    (template : String) :
    number next (identifier name ++ joint ++ template) =
      identifier name ++ joint ++ number next template := by
  have haligned := identifier_aligned name
  refine String.toList_inj.1 ?_
  simp only [number_toList, String.toList_append, List.append_assoc]
  rw [haligned.numbered_append, numbered_unmarked haligned.markers, Nat.add_zero,
    Aligned.numbered_plain_append hj]

theorem jsonPath_shows (field : String) : Shows (jsonPath field).toList [] :=
  (jsonPath_aligned field).shows_nothing

namespace Shows

variable {a b joint : List Char} {m n : List Nat}

theorem joined (ha : Shows a m) (hj : isJoint joint) (hb : Shows b n) :
    Shows (a ++ (joint ++ b)) (m ++ n) :=
  ha.append (.plain_append (isJoint_plain hj) hb) (isJoint_start hj b)

theorem closedBy (ha : Shows a m) (hj : isJoint joint) : Shows (a ++ joint) m := by
  have hend : Shows [] [] := .plain rfl
  have h := ha.joined hj hend
  rwa [List.append_nil, List.append_nil] at h

end Shows

/-- Texts that show these placeholders one after the other. -/
inductive ShowsAll : List String → List Nat → Prop
  | nil : ShowsAll [] []
  | cons {text : String} {texts : List String} {found more : List Nat}
    (h : Shows text.toList found) (hs : ShowsAll texts more) :
    ShowsAll (text :: texts) (found ++ more)

namespace ShowsAll

theorem single {text : String} {found : List Nat} (h : Shows text.toList found) :
    ShowsAll [text] found := by
  have hs := ShowsAll.cons h .nil
  rwa [List.append_nil] at hs

theorem append {texts others : List String} {found more : List Nat} (h : ShowsAll texts found)
    (hs : ShowsAll others more) : ShowsAll (texts ++ others) (found ++ more) := by
  induction h with
  | nil => exact hs
  | cons hfirst _ ih =>
    rw [List.cons_append, List.append_assoc]
    exact .cons hfirst ih

theorem nothing {texts : List String} (h : ∀ text ∈ texts, Shows text.toList []) :
    ShowsAll texts [] := by
  induction texts with
  | nil => exact .nil
  | cons text rest ih =>
    have hrest := ih fun other hother => h other (List.mem_cons_of_mem text hother)
    exact .cons (h text List.mem_cons_self) hrest

theorem intercalate {joint : String} (hj : isJoint joint.toList) {texts : List String}
    {found : List Nat} (h : ShowsAll texts found) :
    Shows (joint.intercalate texts).toList found := by
  induction h with
  | nil =>
    rw [String.intercalate_nil]
    exact .plain rfl
  | @cons text texts found more hfirst hrest ih =>
    cases hrest with
    | nil => simpa using hfirst
    | @cons other others =>
      rw [String.intercalate_cons_cons, String.toList_append, String.toList_append,
        List.append_assoc]
      exact hfirst.joined hj ih

end ShowsAll

/-- A part that can follow any other: it does not go on with a number. -/
structure IsClause (text : String) (found : List Nat) : Prop where
  shows : Shows text.toList found
  start : startsWithDigit text.toList = false

namespace IsClause

variable {a b : String} {m n : List Nat}

theorem empty : IsClause "" [] := ⟨.plain rfl, rfl⟩

theorem after (hb : IsClause b n) (ha : Shows a.toList m) : Shows (a ++ b).toList (m ++ n) := by
  rw [String.toList_append]
  exact ha.append hb.shows hb.start

theorem behind (hb : IsClause b n) (ha : Shows a.toList []) : Shows (a ++ b).toList n := hb.after ha

theorem closing (hb : IsClause b []) (ha : Shows a.toList m) : Shows (a ++ b).toList m := by
  have h := hb.after ha
  rwa [List.append_nil] at h

theorem append (ha : IsClause a m) (hb : IsClause b n) : IsClause (a ++ b) (m ++ n) := by
  refine ⟨hb.after ha.shows, ?_⟩
  rw [String.toList_append, startsWithDigit_append _ hb.start]
  exact ha.start

theorem keyword (hk : isJoint a.toList) (hb : Shows b.toList n) : IsClause (a ++ b) n := by
  constructor
  · rw [String.toList_append]
    exact .plain_append (isJoint_plain hk) hb
  · rw [String.toList_append]
    exact isJoint_start hk b.toList

end IsClause

namespace Filter

theorem isEmpty_shows {filter : Filter} {found : List Nat} (he : filter.isEmpty)
    (h : Shows filter.pattern.toList found) : found = [] := by
  have hempty : filter.pattern = "" := by
    simpa [Filter.isEmpty] using he
  rw [hempty] at h
  exact h.numbers.symm

theorem whereClause_isClause {filter : Filter} {found : List Nat}
    (h : Shows filter.pattern.toList found) : IsClause filter.whereClause found := by
  unfold Filter.whereClause
  split
  next he =>
    rw [isEmpty_shows he h]
    exact .empty
  next => exact .keyword rfl h

end Filter

namespace Assembly.Binds

variable {α β : Type} {b : Builder}

theorem mapM {f : α → Assembly β} {S : β → List Nat → Prop} {items : List α}
    (h : ∀ a ∈ items, ∀ b, (f a).Binds b fun made params =>
      S made (List.range' b.next params.length)) :
    (items.mapM f).Binds b fun made params => ∃ found,
      List.Forall₂ S made found ∧ found.flatten = List.range' b.next params.length := by
  induction items generalizing b with
  | nil => exact .pure ⟨[], .nil, rfl⟩
  | cons a rest ih =>
    rw [List.mapM_cons]
    refine (h a List.mem_cons_self b).bind fun first params hfirst => ?_
    refine (ih fun c hc => h c (List.mem_cons_of_mem a hc)).bind fun others more hothers => ?_
    obtain ⟨found, hall, hflat⟩ := hothers
    refine .pure ⟨List.range' b.next params.length :: found, .cons hfirst hall, ?_⟩
    rw [List.flatten_cons, hflat, Builder.next_push, List.append_nil, List.length_append,
      List.range'_append_1]

theorem mapM_shows {f : α → Assembly String} {items : List α}
    (h : ∀ a ∈ items, ∀ b, (f a).Binds b fun text params =>
      Shows text.toList (List.range' b.next params.length)) :
    (items.mapM f).Binds b fun texts params =>
      ShowsAll texts (List.range' b.next params.length) := by
  refine (mapM (S := fun text found => Shows text.toList found) h).mono fun texts params hmade => ?_
  obtain ⟨found, hall, hflat⟩ := hmade
  rw [← hflat]
  clear hflat
  induction hall with
  | nil => exact .nil
  | cons hfirst _ ih => exact .cons hfirst ih

theorem mapM_showsAll {f : α → Assembly (List String)} {items : List α}
    (h : ∀ a ∈ items, ∀ b, (f a).Binds b fun texts params =>
      ShowsAll texts (List.range' b.next params.length)) :
    (items.mapM f).Binds b fun texts params =>
      ShowsAll texts.flatten (List.range' b.next params.length) := by
  refine (mapM (S := ShowsAll) h).mono fun texts params hmade => ?_
  obtain ⟨found, hall, hflat⟩ := hmade
  rw [← hflat]
  clear hflat
  induction hall with
  | nil => exact .nil
  | cons hfirst _ ih => exact hfirst.append ih

theorem fragment_shows {f : Fragment} (h : f.IsAligned) :
    (Assembly.bind f).Binds b fun text params =>
      Shows text.toList (List.range' b.next params.length) := by
  refine (fragment h).mono fun text params hmade => ?_
  obtain ⟨rfl, rfl⟩ := hmade
  exact Aligned.number_shows h b.next

end Assembly.Binds
end DocSql.Sql
