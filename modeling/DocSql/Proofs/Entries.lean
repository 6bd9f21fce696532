import DocSql.Entries
import Mathlib.Data.List.Nodup
import Mathlib.Data.List.Perm.Subperm

/-!
Looking up a name after entries were added or left out. A lookup finds the
first entry of its name, so none of this needs the order of the list.
-/
namespace DocSql.Entries

variable {α : Type}

@[simp] theorem find?_nil (name : String) : find? ([] : Entries α) name = none := rfl

theorem find?_cons (key : String) (value : α) (rest : Entries α) (name : String) :
    find? ((key, value) :: rest) name = if key = name then some value else find? rest name := rfl

theorem mem_of_find? {entries : Entries α} {name : String} {value : α}
    (h : find? entries name = some value) : (name, value) ∈ entries := by
  induction entries with
  | nil => cases h
  | cons entry rest ih =>
    obtain ⟨key, held⟩ := entry
    rw [find?_cons] at h
    split at h
    next hkey =>
      cases h
      rw [hkey]
      exact List.mem_cons_self
    next => exact List.mem_cons_of_mem _ (ih h)

theorem mem_keys_of_contains {entries : Entries α} {name : String} (h : contains entries name) :
    name ∈ keys entries := by
  obtain ⟨value, hfound⟩ := Option.isSome_iff_exists.1 h
  exact List.mem_map_of_mem (mem_of_find? hfound)

theorem mem_keys_iff {entries : Entries α} {name : String} :
    name ∈ keys entries ↔ ∃ value, find? entries name = some value := by
  refine ⟨fun h => ?_, fun ⟨value, h⟩ => List.mem_map_of_mem (mem_of_find? h)⟩
  induction entries with
  | nil => cases h
  | cons entry rest ih =>
    obtain ⟨key, held⟩ := entry
    rw [find?_cons]
    split
    · exact ⟨held, rfl⟩
    next hkey => exact ih ((List.mem_cons.1 h).resolve_left (Ne.symm hkey))

theorem contains_eq_decide (entries : Entries α) (name : String) :
    contains entries name = decide (name ∈ keys entries) := by
  rw [Bool.eq_iff_iff, decide_eq_true_iff, contains, Option.isSome_iff_exists, mem_keys_iff]

theorem find?_eq_none_iff {entries : Entries α} {name : String} :
    find? entries name = none ↔ name ∉ keys entries := by
  rw [mem_keys_iff, Option.eq_none_iff_forall_ne_some, not_exists]

@[simp] theorem find?_insert_self (entries : Entries α) (name : String) (value : α) :
    find? (insert entries name value) name = some value := by
  induction entries with
  | nil => simp [insert, find?_cons]
  | cons entry rest ih =>
    obtain ⟨key, held⟩ := entry
    unfold insert
    split
    · simp [find?_cons]
    · split
      · simp [find?_cons]
      next hne => simp [find?_cons, Ne.symm hne, ih]

theorem find?_insert_other (entries : Entries α) {name key : String} (value : α)
    (h : name ≠ key) : find? (insert entries name value) key = find? entries key := by
  induction entries with
  | nil => simp [insert, find?_cons, h]
  | cons entry rest ih =>
    obtain ⟨first, held⟩ := entry
    unfold insert
    split
    · rw [find?_cons, if_neg h]
    · split
      next hsame =>
        subst hsame
        rw [find?_cons, find?_cons, if_neg h, if_neg h]
      next => rw [find?_cons, find?_cons, ih]

theorem find?_insert (entries : Entries α) (name key : String) (value : α) :
    find? (insert entries name value) key =
      if name = key then some value else find? entries key := by
  by_cases h : name = key
  · subst h
    rw [find?_insert_self, if_pos rfl]
  · rw [find?_insert_other entries value h, if_neg h]

theorem find?_insertNew (entries : Entries α) (name key : String) (value : α) :
    find? (insertNew entries name value) key =
      (find? entries key).or (if name = key then some value else none) := by
  unfold insertNew contains
  by_cases h : name = key
  · subst h
    rw [if_pos rfl]
    cases hfound : find? entries name with
    | none => simp
    | some held => simp [hfound]
  · rw [if_neg h, Option.or_none]
    split
    · rfl
    · exact find?_insert_other entries value h

theorem mem_insert {entries : Entries α} {name : String} {value : α} {entry : String × α}
    (h : entry ∈ insert entries name value) : entry ∈ entries ∨ entry = (name, value) := by
  induction entries with
  | nil => exact .inr (List.mem_singleton.1 h)
  | cons held rest ih =>
    obtain ⟨key, other⟩ := held
    rw [insert] at h
    split at h
    · exact (List.mem_cons.1 h).symm
    · split at h
      · rcases List.mem_cons.1 h with hnew | hrest
        · exact .inr hnew
        · exact .inl (List.mem_cons_of_mem _ hrest)
      · rcases List.mem_cons.1 h with rfl | hinserted
        · exact .inl List.mem_cons_self
        · exact (ih hinserted).imp_left (List.mem_cons_of_mem _)

theorem mem_insertNew {entries : Entries α} {name : String} {value : α} {entry : String × α}
    (h : entry ∈ insertNew entries name value) : entry ∈ entries ∨ entry = (name, value) := by
  unfold insertNew at h
  split at h
  · exact .inl h
  · exact mem_insert h

theorem find?_filter_of_some {entries : Entries α} (keep : α → Bool) {name : String} {value : α}
    (h : find? entries name = some value) (hk : keep value) :
    find? (entries.filter fun entry => keep entry.2) name = some value := by
  induction entries with
  | nil => cases h
  | cons entry rest ih =>
    obtain ⟨key, held⟩ := entry
    rw [find?_cons] at h
    split at h
    next hkey =>
      cases h
      rw [List.filter_cons, if_pos hk, find?_cons, if_pos hkey]
    next hkey =>
      rw [List.filter_cons]
      split
      · rw [find?_cons, if_neg hkey, ih h]
      · exact ih h

theorem find?_filter_of_none {entries : Entries α} (keep : α → Bool) {name : String}
    (h : find? entries name = none) :
    find? (entries.filter fun entry => keep entry.2) name = none := by
  induction entries with
  | nil => rfl
  | cons entry rest ih =>
    obtain ⟨key, held⟩ := entry
    rw [find?_cons] at h
    split at h
    · cases h
    next hkey =>
      rw [List.filter_cons]
      split
      · rw [find?_cons, if_neg hkey, ih h]
      · exact ih h

theorem find?_filter_key (entries : Entries α) (keep : String → Bool) (name : String) :
    find? (entries.filter fun entry => keep entry.1) name =
      if keep name then find? entries name else none := by
  induction entries with
  | nil => simp
  | cons entry rest ih =>
    obtain ⟨key, held⟩ := entry
    rw [List.filter_cons, find?_cons]
    by_cases hkey : key = name
    · subst hkey
      by_cases hkeep : keep key
      · rw [if_pos hkeep, find?_cons, if_pos rfl, if_pos hkeep, if_pos rfl]
      · rw [if_neg hkeep, ih, if_neg hkeep, if_neg hkeep]
    · rw [if_neg hkey]
      split
      · rw [find?_cons, if_neg hkey, ih]
      · exact ih

theorem find?_erase (entries : Entries α) (name key : String) :
    find? (erase entries name) key = if key = name then none else find? entries key := by
  refine (find?_filter_key entries (fun other => decide (other ≠ name)) key).trans ?_
  by_cases hkey : key = name
  · simp [hkey]
  · simp [hkey]

theorem find?_foldl_erase (entries : Entries α) (names : List String) (key : String) :
    find? (names.foldl erase entries) key = if key ∈ names then none else find? entries key := by
  induction names generalizing entries with
  | nil => simp
  | cons name rest ih =>
    rw [List.foldl_cons, ih, find?_erase]
    by_cases hkey : key = name
    · simp [hkey]
    · simp [hkey]

theorem find?_map {β : Type} (f : String → α → β) (entries : Entries α) (name : String) :
    find? (entries.map fun entry => (entry.1, f entry.1 entry.2)) name =
      (find? entries name).map (f name) := by
  induction entries with
  | nil => rfl
  | cons entry rest ih =>
    obtain ⟨key, held⟩ := entry
    rw [List.map_cons, find?_cons, find?_cons, ih]
    split
    next hkey =>
      rw [hkey]
      rfl
    next => rfl

theorem find?_mapValues {β : Type} (f : α → β) (entries : Entries α) (name : String) :
    find? (mapValues f entries) name = (find? entries name).map f :=
  find?_map (fun _ => f) entries name

theorem find?_append (entries more : Entries α) (name : String) :
    find? (entries ++ more) name = (find? entries name).or (find? more name) := by
  induction entries with
  | nil => rfl
  | cons entry rest ih =>
    obtain ⟨key, held⟩ := entry
    rw [List.cons_append, find?_cons, find?_cons, ih]
    split
    · rfl
    · rfl

theorem find?_foldl_insertNew (entries added : Entries α) (name : String) :
    find? (added.foldl (fun all entry => insertNew all entry.1 entry.2) entries) name =
      (find? entries name).or (find? added name) := by
  induction added generalizing entries with
  | nil => simp
  | cons entry rest ih =>
    obtain ⟨key, held⟩ := entry
    rw [List.foldl_cons, ih, find?_insertNew, Option.or_assoc, find?_cons]
    congr 1
    split
    · rfl
    · rfl

/-- Two lists of entries as one; a name of both has its value from the second. -/
def merge (entries upper : Entries α) : Entries α :=
  entries.foldl (fun all entry => insertNew all entry.1 entry.2) upper

theorem find?_merge (entries upper : Entries α) (name : String) :
    find? (merge entries upper) name = (find? upper name).or (find? entries name) :=
  find?_foldl_insertNew upper entries name

theorem find?_of_mem_of_nodup {entries : Entries α} {name : String} {value : α}
    (hn : (keys entries).Nodup) (h : (name, value) ∈ entries) : find? entries name = some value := by
  induction entries with
  | nil => cases h
  | cons entry rest ih =>
    obtain ⟨key, held⟩ := entry
    obtain ⟨hkey, hrest⟩ := List.nodup_cons.1 hn
    rw [find?_cons]
    rcases List.mem_cons.1 h with hfirst | hlater
    · cases hfirst
      rw [if_pos rfl]
    · have hne : key ≠ name := by
        rintro rfl
        exact hkey (List.mem_map.2 ⟨_, hlater, rfl⟩)
      rw [if_neg hne, ih hrest hlater]

theorem find?_reverse {entries : Entries α} (hn : (keys entries).Nodup) (name : String) :
    find? entries.reverse name = find? entries name := by
  apply Option.ext
  intro value
  have hr : (keys entries.reverse).Nodup := by
    rw [keys, List.map_reverse]
    exact List.nodup_reverse.2 hn
  constructor
  · intro h
    exact find?_of_mem_of_nodup hn (List.mem_reverse.1 (mem_of_find? h))
  · intro h
    exact find?_of_mem_of_nodup hr (List.mem_reverse.2 (mem_of_find? h))

theorem find?_filterMap {β : Type} (f : α → Option β) {entries : Entries α}
    (hn : (keys entries).Nodup) (name : String) :
    find? (entries.filterMap fun entry => (f entry.2).map (entry.1, ·)) name =
      (find? entries name).bind f := by
  induction entries with
  | nil => rfl
  | cons entry rest ih =>
    obtain ⟨key, held⟩ := entry
    obtain ⟨hkey, hrest⟩ := List.nodup_cons.1 hn
    rw [List.filterMap_cons, find?_cons]
    cases hvalue : f held with
    | none =>
      simp only [Option.map_none, ih hrest]
      split
      next hsame =>
        rw [find?_eq_none_iff.2 (hsame ▸ hkey), Option.bind_some, hvalue]
        rfl
      next => rfl
    | some value =>
      simp only [Option.map_some, find?_cons, ih hrest]
      split
      · rw [Option.bind_some, hvalue]
      · rfl

theorem keys_nodup {entries : Entries α} (hs : (keys entries).Pairwise (· < ·)) :
    (keys entries).Nodup :=
  hs.imp (by rintro a b hlt rfl; exact String.lt_irrefl _ hlt)

theorem find?_of_mem {entries : Entries α} {name : String} {value : α}
    (hs : (keys entries).Pairwise (· < ·)) (h : (name, value) ∈ entries) :
    find? entries name = some value :=
  find?_of_mem_of_nodup (keys_nodup hs) h

/-- Entries in order are told by what is found in them. -/
theorem eq_of_find? {entries others : Entries α} (hs : (keys entries).Pairwise (· < ·))
    (ho : (keys others).Pairwise (· < ·))
    (h : ∀ name value, find? entries name = some value ↔ find? others name = some value) :
    entries = others := by
  have hmem : ∀ entry : String × α, entry ∈ entries ↔ entry ∈ others := fun entry =>
    ⟨fun he => mem_of_find? ((h _ _).1 (find?_of_mem hs he)),
      fun he => mem_of_find? ((h _ _).2 (find?_of_mem ho he))⟩
  rw [keys, List.pairwise_map] at hs ho
  have hnodup : ∀ {list : Entries α}, list.Pairwise (fun a b => a.1 < b.1) → list.Nodup :=
    fun hp => hp.imp (by rintro a b hlt rfl; exact String.lt_irrefl _ hlt)
  exact ((List.perm_ext_iff_of_nodup (hnodup hs) (hnodup ho)).2 hmem).eq_of_pairwise
    (fun a b _ _ hab hba => absurd hba (String.lt_asymm hab)) hs ho

theorem ext_find? {entries others : Entries α} (hs : (keys entries).Pairwise (· < ·))
    (ho : (keys others).Pairwise (· < ·)) (h : ∀ name, find? entries name = find? others name) :
    entries = others :=
  eq_of_find? hs ho fun name value => by rw [h name]

theorem insert_sorted {entries : Entries α} (name : String) (value : α)
    (h : (keys entries).Pairwise (· < ·)) :
    (keys (insert entries name value)).Pairwise (· < ·) := by
  induction entries with
  | nil => exact List.pairwise_singleton _ _
  | cons entry rest ih =>
    obtain ⟨key, held⟩ := entry
    obtain ⟨hbefore, hrest⟩ := List.pairwise_cons.1 h
    unfold insert
    split
    next hlt =>
      refine List.pairwise_cons.2 ⟨fun other hother => ?_, h⟩
      rcases List.mem_cons.1 hother with rfl | hlater
      · exact hlt
      · exact String.lt_trans hlt (hbefore other hlater)
    next hnlt =>
      split
      next hsame => exact List.pairwise_cons.2 ⟨hsame ▸ hbefore, hrest⟩
      next hne =>
        refine List.pairwise_cons.2 ⟨fun other hother => ?_, ih hrest⟩
        obtain ⟨⟨_, found⟩, hmem, rfl⟩ := List.mem_map.1 hother
        rcases mem_insert hmem with hold | hnew
        · exact hbefore _ (List.mem_map_of_mem hold)
        · cases hnew
          exact Std.lt_of_le_of_ne (String.not_lt.1 hnlt) (Ne.symm hne)

theorem insertNew_sorted {entries : Entries α} (name : String) (value : α)
    (h : (keys entries).Pairwise (· < ·)) :
    (keys (insertNew entries name value)).Pairwise (· < ·) := by
  unfold insertNew
  split
  · exact h
  · exact insert_sorted name value h

theorem erase_sorted {entries : Entries α} (h : (keys entries).Pairwise (· < ·)) (name : String) :
    (keys (erase entries name)).Pairwise (· < ·) :=
  h.sublist (List.filter_sublist.map _)

theorem foldl_erase_sorted {entries : Entries α} (names : List String)
    (h : (keys entries).Pairwise (· < ·)) :
    (keys (names.foldl erase entries)).Pairwise (· < ·) := by
  induction names generalizing entries with
  | nil => exact h
  | cons name rest ih => exact ih (erase_sorted h name)

theorem merge_sorted (entries : Entries α) {upper : Entries α}
    (h : (keys upper).Pairwise (· < ·)) : (keys (merge entries upper)).Pairwise (· < ·) := by
  induction entries generalizing upper with
  | nil => exact h
  | cons entry rest ih => exact ih (insertNew_sorted entry.1 entry.2 h)

theorem keys_filterMap_sublist {β : Type} (f : α → Option β) (entries : Entries α) :
    (keys (entries.filterMap fun entry => (f entry.2).map (entry.1, ·))).Sublist
      (keys entries) := by
  induction entries with
  | nil => exact .slnil
  | cons entry rest ih =>
    rw [List.filterMap_cons]
    cases f entry.2 with
    | none => exact .cons _ ih
    | some value => exact .cons_cons _ ih

theorem insert_last {entries : Entries α} {name : String} (value : α)
    (h : ∀ key ∈ keys entries, key < name) : insert entries name value = entries ++ [(name, value)] := by
  induction entries with
  | nil => rfl
  | cons entry rest ih =>
    obtain ⟨key, held⟩ := entry
    have hkey : key < name := h key List.mem_cons_self
    have hne : name ≠ key := by
      rintro rfl
      exact String.lt_irrefl name hkey
    unfold insert
    rw [if_neg (String.lt_asymm hkey), if_neg hne, ih fun k hk => h k (List.mem_cons_of_mem _ hk)]
    rfl

theorem foldl_insert_of_sorted (entries rest : Entries α)
    (h : (keys (entries ++ rest)).Pairwise (· < ·)) :
    rest.foldl (fun all entry => insert all entry.1 entry.2) entries = entries ++ rest := by
  induction rest generalizing entries with
  | nil => rw [List.append_nil, List.foldl_nil]
  | cons entry rest ih =>
    have hbelow : ∀ key ∈ keys entries, key < entry.1 := by
      intro key hkey
      rw [keys, List.map_append, List.pairwise_append] at h
      exact h.2.2 key hkey entry.1 List.mem_cons_self
    rw [List.foldl_cons, insert_last entry.2 hbelow, ih _ (by rwa [List.append_assoc]),
      List.append_assoc]
    rfl

theorem ofList_of_sorted {members : List (String × α)} (h : (keys members).Pairwise (· < ·)) :
    ofList members = members :=
  foldl_insert_of_sorted [] members h

theorem insert_cons_of_lt {name key : String} (value held : α) (rest : Entries α)
    (h : name < key) : insert ((key, held) :: rest) name value =
      (name, value) :: (key, held) :: rest := if_pos h

theorem insert_cons_self (name : String) (value held : α) (rest : Entries α) :
    insert ((name, held) :: rest) name value = (name, value) :: rest := by
  rw [insert, if_neg (String.lt_irrefl name), if_pos rfl]

theorem insert_cons_of_gt {name key : String} (value held : α) (rest : Entries α)
    (h : key < name) : insert ((key, held) :: rest) name value =
      (key, held) :: insert rest name value := by
  have hne : name ≠ key := by
    rintro rfl
    exact String.lt_irrefl name h
  rw [insert, if_neg (String.lt_asymm h), if_neg hne]

theorem insert_insert (entries : Entries α) (name : String) (value later : α) :
    insert (insert entries name value) name later = insert entries name later := by
  induction entries with
  | nil => exact insert_cons_self name later value []
  | cons entry rest ih =>
    obtain ⟨key, held⟩ := entry
    rcases Std.lt_trichotomy name key with hlt | rfl | hgt
    · rw [insert_cons_of_lt _ _ _ hlt, insert_cons_of_lt _ _ _ hlt, insert_cons_self]
    · rw [insert_cons_self, insert_cons_self, insert_cons_self]
    · rw [insert_cons_of_gt _ _ _ hgt, insert_cons_of_gt _ _ _ hgt, insert_cons_of_gt _ _ _ hgt, ih]

theorem insert_comm_of_lt (entries : Entries α) {name other : String} (value second : α)
    (h : name < other) : insert (insert entries name value) other second =
      insert (insert entries other second) name value := by
  induction entries with
  | nil => exact (insert_cons_of_gt second value [] h).trans (insert_cons_of_lt value second [] h).symm
  | cons entry rest ih =>
    obtain ⟨key, held⟩ := entry
    rcases Std.lt_trichotomy name key with hlt | rfl | hgt
    · -- The lower name comes first, wherever the other one goes behind it.
      rw [insert_cons_of_lt _ _ _ hlt, insert_cons_of_gt _ _ _ h]
      rcases Std.lt_trichotomy other key with hother | rfl | hother
      · rw [insert_cons_of_lt _ _ _ hother, insert_cons_of_lt _ _ _ h]
      · rw [insert_cons_self, insert_cons_of_lt _ _ _ h]
      · rw [insert_cons_of_gt _ _ _ hother, insert_cons_of_lt _ _ _ hlt]
    · rw [insert_cons_self, insert_cons_of_gt _ _ _ h, insert_cons_of_gt _ _ _ h, insert_cons_self]
    · have hother : key < other := String.lt_trans hgt h
      rw [insert_cons_of_gt _ _ _ hgt, insert_cons_of_gt _ _ _ hother,
        insert_cons_of_gt _ _ _ hother, insert_cons_of_gt _ _ _ hgt, ih]

theorem insert_comm (entries : Entries α) {name other : String} (value second : α)
    (h : name ≠ other) : insert (insert entries name value) other second =
      insert (insert entries other second) name value := by
  rcases Std.lt_trichotomy name other with hlt | rfl | hgt
  · exact insert_comm_of_lt entries value second hlt
  · exact absurd rfl h
  · exact (insert_comm_of_lt entries second value hgt).symm

theorem find?_foldl_insert (entries added : Entries α) (name : String) :
    find? (added.foldl (fun all entry => insert all entry.1 entry.2) entries) name =
      (find? added.reverse name).or (find? entries name) := by
  induction added generalizing entries with
  | nil => rfl
  | cons entry rest ih =>
    obtain ⟨key, held⟩ := entry
    rw [List.foldl_cons, ih, List.reverse_cons, find?_append, Option.or_assoc, find?_insert,
      find?_cons]
    congr 1
    split
    · rfl
    · rfl

theorem find?_ofList (pairs : List (String × α)) (name : String) :
    find? (ofList pairs) name = find? pairs.reverse name := by
  rw [ofList, find?_foldl_insert, find?_nil, Option.or_none]

theorem find?_ofList_of_mem {pairs : List (String × α)} {name : String} {value : α}
    (hn : (keys pairs).Nodup) (h : (name, value) ∈ pairs) :
    find? (ofList pairs) name = some value := by
  rw [find?_ofList]
  refine find?_of_mem_of_nodup ?_ (List.mem_reverse.2 h)
  rw [keys, List.map_reverse]
  exact List.pairwise_reverse.2 (hn.imp Ne.symm)

theorem foldl_insert_sorted {entries : Entries α} (added : Entries α)
    (h : (keys entries).Pairwise (· < ·)) :
    (keys (added.foldl (fun all entry => insert all entry.1 entry.2) entries)).Pairwise (· < ·) := by
  induction added generalizing entries with
  | nil => exact h
  | cons entry rest ih => exact ih (insert_sorted entry.1 entry.2 h)

theorem ofList_sorted (pairs : List (String × α)) : (keys (ofList pairs)).Pairwise (· < ·) :=
  foldl_insert_sorted pairs .nil

theorem mem_foldl_insert {entries added : Entries α} {entry : String × α}
    (h : entry ∈ added.foldl (fun all entry => insert all entry.1 entry.2) entries) :
    entry ∈ entries ∨ entry ∈ added := by
  induction added generalizing entries with
  | nil => exact .inl h
  | cons first rest ih =>
    rcases ih h with hbefore | hrest
    · rcases mem_insert hbefore with hold | rfl
      · exact .inl hold
      · exact .inr List.mem_cons_self
    · exact .inr (List.mem_cons_of_mem _ hrest)

theorem mem_ofList {pairs : List (String × α)} {entry : String × α} (h : entry ∈ ofList pairs) :
    entry ∈ pairs :=
  (mem_foldl_insert h).resolve_left List.not_mem_nil

theorem mem_keys_ofList {pairs : List (String × α)} {name : String} :
    name ∈ keys (ofList pairs) ↔ name ∈ keys pairs := by
  rw [mem_keys_iff, find?_ofList, ← mem_keys_iff, keys, List.map_reverse, List.mem_reverse]
  rfl

theorem ofList_perm {pairs : List (String × α)} (hn : (keys pairs).Nodup) :
    (ofList pairs).Perm pairs := by
  have hnodup := List.Nodup.of_map Prod.fst (keys_nodup (ofList_sorted pairs))
  refine (List.perm_ext_iff_of_nodup hnodup (List.Nodup.of_map Prod.fst hn)).2 fun entry => ?_
  exact ⟨mem_ofList, fun h => mem_of_find? (find?_ofList_of_mem hn h)⟩

theorem nodup_of_length_ofList {pairs : List (String × α)}
    (h : pairs.length ≤ (ofList pairs).length) : (keys pairs).Nodup := by
  have hnodup := keys_nodup (ofList_sorted pairs)
  have hsubperm := List.subperm_of_subset hnodup fun _ => mem_keys_ofList.1
  refine (hsubperm.perm_of_length_le ?_).nodup_iff.1 hnodup
  rwa [keys, keys, List.length_map, List.length_map]

end DocSql.Entries
