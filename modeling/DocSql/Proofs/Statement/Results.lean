import DocSql.Proofs.Entries
import DocSql.Proofs.Number.IntegerText
import DocSql.Proofs.Outcome
import DocSql.Statement.Aggregate
import Mathlib.Data.List.Nodup

/-!
Rows as results. Names of parts leave a row and come back inside its key, the
count becomes a whole number, and all else stays. A name that is listed twice
is taken twice, and the second time there is nothing left to take. Main
statement: `results_fold_iff`.
-/
namespace DocSql.Aggregate

open Number (WritesInt fitsInt64)

def valueIn (row : Entries Json) (name : String) : Json := (Entries.find? row name).getD .null

theorem valueIn_erase (row : Entries Json) (name key : String) :
    valueIn (Entries.erase row name) key = if key = name then .null else valueIn row key := by
  rw [valueIn, Entries.find?_erase]
  split
  · rfl
  · rfl

theorem takeParts_row (names : List String) (row : Entries Json) :
    (takeParts names row).2 = names.foldl Entries.erase row := by
  induction names generalizing row with
  | nil => rfl
  | cons name rest ih => exact ih (Entries.erase row name)

theorem find?_takeParts (names : List String) (row : Entries Json) (name : String) :
    Entries.find? (takeParts names row).1.reverse name =
      if name ∈ names then some (if names.count name = 1 then valueIn row name else .null)
      else none := by
  induction names generalizing row with
  | nil => rfl
  | cons first rest ih =>
    have hparts : (takeParts (first :: rest) row).1 =
        (first, valueIn row first) :: (takeParts rest (Entries.erase row first)).1 := rfl
    rw [hparts, List.reverse_cons, Entries.find?_append, ih, Entries.find?_cons, valueIn_erase]
    by_cases hname : name ∈ rest
    · rw [if_pos hname, if_pos (List.mem_cons_of_mem _ hname), Option.some_or]
      by_cases hfirst : name = first
      · -- taken before, so nothing is left
        subst hfirst
        have hcount := List.count_pos_iff.2 hname
        rw [List.count_cons_self, if_neg (show rest.count name + 1 ≠ 1 by omega), if_pos rfl,
          ite_self]
      · rw [if_neg hfirst, List.count_cons_of_ne (Ne.symm hfirst)]
    · rw [if_neg hname, Option.none_or]
      by_cases hfirst : first = name
      · subst hfirst
        rw [if_pos rfl, if_pos List.mem_cons_self, List.count_cons_self,
          List.count_eq_zero.2 hname, if_pos rfl]
      · have hnot : name ∉ first :: rest := fun h => (List.mem_cons.1 h).elim (Ne.symm hfirst) hname
        rw [if_neg hfirst, if_neg hnot]
        rfl

def foldedKey (plan : Aggregate) (row : Entries Json) : Entries Json :=
  Entries.ofList (takeParts plan.groupAliases row).1

theorem find?_foldedKey (plan : Aggregate) (row : Entries Json) (name : String) :
    Entries.find? (foldedKey plan row) name = if name ∈ plan.groupAliases then
      some (if plan.groupAliases.count name = 1 then valueIn row name else .null) else none := by
  rw [foldedKey, Entries.find?_ofList, find?_takeParts]

theorem mem_keys_foldedKey (plan : Aggregate) (row : Entries Json) (name : String) :
    name ∈ Entries.keys (foldedKey plan row) ↔ name ∈ plan.groupAliases := by
  rw [Entries.mem_keys_iff, find?_foldedKey]
  split
  next h => exact ⟨fun _ => h, fun _ => ⟨_, rfl⟩⟩
  next h => exact ⟨nofun, fun hname => absurd hname h⟩

theorem withKey_of_parts {plan : Aggregate} (h : plan.groupAliases ≠ []) (row : Entries Json) :
    plan.withKey row = Entries.insert (plan.groupAliases.foldl Entries.erase row) "objectId"
      (.obj (foldedKey plan row)) := by
  unfold withKey
  rw [if_neg (by rwa [List.isEmpty_iff]), ← takeParts_row]
  rfl

theorem withKey_of_none {plan : Aggregate} (h : plan.groupAliases = []) (row : Entries Json) :
    plan.withKey row = Entries.insertNew row "objectId" .null := by
  unfold withKey
  rw [if_pos (by rw [h]; rfl)]

/-- A number of rows as a row has it and as a result shows it: numbers and texts
of 64-bit integers become whole numbers, and nothing else changes. -/
inductive Converts : Json → Json → Prop
  | number {number : Number} {n : Int} (h : countValue? (.num number) = some n) :
    Converts (.num number) (.int n)
  | text {text : String} {n : Int} (h : WritesInt text.toList n) (hf : fitsInt64 n) :
    Converts (.str text) (.int n)
  | other {value : Json} (hn : value.num? = none)
    (ht : ∀ text n, value = .str text → WritesInt text.toList n → ¬fitsInt64 n) :
    Converts value value

def counted (value : Json) : Json := ((countValue? value).map Json.int).getD value

theorem converts_counted (value : Json) : Converts value (counted value) := by
  cases value with
  | num number =>
    have hsome : (countValue? (.num number)).isSome := by simp [countValue?]
    obtain ⟨n, hn⟩ := Option.isSome_iff_exists.1 hsome
    rw [counted, hn]
    exact .number hn
  | str text =>
    cases hread : countValue? (.str text) with
    | some n =>
      rw [counted, hread]
      obtain ⟨hwrites, hfits⟩ := Number.int64OfText?_eq_some_iff.1 hread
      exact .text hwrites hfits
    | none =>
      rw [counted, hread]
      refine .other rfl fun written n hsame hwrites hfits => ?_
      cases hsame
      exact Option.some_ne_none n
        ((Number.int64OfText?_eq_some_iff.2 ⟨hwrites, hfits⟩).symm.trans hread)
  | null | bool _ | arr _ | obj _ => exact .other rfl nofun

theorem find?_withCount (plan : Aggregate) (row : Entries Json) (name : String) :
    Entries.find? (plan.withCount row) name =
      if plan.countField = some name then (Entries.find? row name).map counted
      else Entries.find? row name := by
  unfold withCount
  split
  next hfield => rw [hfield, if_neg (by simp)]
  next field hfield =>
    rw [hfield]
    split
    next n hn =>
      obtain ⟨value, hvalue, hcount⟩ := Option.bind_eq_some_iff.1 hn
      rw [Entries.find?_insert]
      by_cases hname : field = name
      · subst hname
        rw [if_pos rfl, if_pos rfl, hvalue, Option.map_some, counted, hcount]
        rfl
      · rw [if_neg hname, if_neg (by simpa using hname)]
    next hnone =>
      split
      next hname =>
        cases hname
        cases hvalue : Entries.find? row name with
        | none => rfl
        | some value =>
          rw [hvalue] at hnone
          rw [Option.map_some, counted, show countValue? value = none from hnone]
          rfl
      · rfl

/-- What of a row its result shows. Every name has its place: it is the key, a
part of the key, the count, or an entry that stays as it is. -/
structure Shapes (plan : Aggregate) (row shaped : Entries Json) : Prop where
  ordered : (Entries.keys row).Pairwise (· < ·) → (Entries.keys shaped).Pairwise (· < ·)
  parts : plan.groupAliases ≠ [] → ∃ key, Entries.find? shaped "objectId" = some (.obj key) ∧
    (Entries.keys key).Pairwise (· < ·) ∧
    (∀ name, name ∈ Entries.keys key ↔ name ∈ plan.groupAliases) ∧
    ∀ name ∈ plan.groupAliases, Entries.find? key name =
      some (if plan.groupAliases.count name = 1 then valueIn row name else .null)
  taken : ∀ name ∈ plan.groupAliases, name ≠ "objectId" → Entries.find? shaped name = none
  alone : plan.groupAliases = [] → ∃ value, Entries.find? shaped "objectId" = some value ∧
    (plan.countField = some "objectId" → Converts (valueIn row "objectId") value) ∧
    (plan.countField ≠ some "objectId" → value = valueIn row "objectId")
  count : ∀ field, plan.countField = some field → field ≠ "objectId" →
    field ∉ plan.groupAliases →
    Option.Rel Converts (Entries.find? row field) (Entries.find? shaped field)
  others : ∀ name, name ≠ "objectId" → name ∉ plan.groupAliases → plan.countField ≠ some name →
    Entries.find? shaped name = Entries.find? row name

theorem find?_withKey_other (plan : Aggregate) (row : Entries Json) {name : String}
    (h : name ≠ "objectId") : Entries.find? (plan.withKey row) name =
      if name ∈ plan.groupAliases then none else Entries.find? row name := by
  by_cases hnone : plan.groupAliases = []
  · rw [withKey_of_none hnone, Entries.find?_insertNew, if_neg (Ne.symm h), Option.or_none, hnone,
      if_neg List.not_mem_nil]
  · rw [withKey_of_parts hnone, Entries.find?_insert_other _ _ (Ne.symm h),
      Entries.find?_foldl_erase]

theorem withKey_sorted (plan : Aggregate) {row : Entries Json}
    (h : (Entries.keys row).Pairwise (· < ·)) :
    (Entries.keys (plan.withKey row)).Pairwise (· < ·) := by
  by_cases hnone : plan.groupAliases = []
  · rw [withKey_of_none hnone]
    exact Entries.insertNew_sorted _ _ h
  · rw [withKey_of_parts hnone]
    exact Entries.insert_sorted _ _ (Entries.foldl_erase_sorted _ h)

theorem withCount_sorted (plan : Aggregate) {row : Entries Json}
    (h : (Entries.keys row).Pairwise (· < ·)) :
    (Entries.keys (plan.withCount row)).Pairwise (· < ·) := by
  unfold withCount
  split
  · exact h
  · split
    · exact Entries.insert_sorted _ _ h
    · exact h

theorem optionRel_counted (value : Option Json) :
    Option.Rel Converts value (value.map counted) := by
  cases value with
  | none => exact .none
  | some value => exact .some (converts_counted value)

theorem shapes (plan : Aggregate) (row : Entries Json) :
    Shapes plan row (plan.withCount (plan.withKey row)) := by
  constructor
  · exact fun h => withCount_sorted plan (withKey_sorted plan h)
  · intro hparts
    refine ⟨foldedKey plan row, ?_, Entries.ofList_sorted _, mem_keys_foldedKey plan row,
      fun name hname => ?_⟩
    · -- an object is no count
      rw [find?_withCount, withKey_of_parts hparts, Entries.find?_insert_self]
      split
      · rfl
      · rfl
    · rw [find?_foldedKey, if_pos hname]
  · intro name hname hid
    rw [find?_withCount, find?_withKey_other plan row hid, if_pos hname]
    split
    · rfl
    · rfl
  · intro hnone
    have hkey : Entries.find? (plan.withKey row) "objectId" = some (valueIn row "objectId") := by
      rw [withKey_of_none hnone, Entries.find?_insertNew, if_pos rfl, valueIn]
      cases Entries.find? row "objectId" with
      | none => rfl
      | some value => rfl
    rw [find?_withCount, hkey]
    split
    next hcount => exact ⟨_, rfl, fun _ => converts_counted _, fun h => absurd hcount h⟩
    next hcount => exact ⟨_, rfl, fun h => absurd h hcount, fun _ => rfl⟩
  · intro field hfield hid hpart
    rw [find?_withCount, if_pos hfield, find?_withKey_other plan row hid, if_neg hpart]
    exact optionRel_counted _
  · intro name hid hpart hcount
    rw [find?_withCount, if_neg hcount, find?_withKey_other plan row hid, if_neg hpart]

theorem results_forall₂ {R : Entries Json → Json → Prop} (plan : Aggregate)
    (h : ∀ row, R row (.obj (plan.withCount (plan.withKey row)))) (rows : List (Entries Json)) :
    List.Forall₂ R rows (plan.results rows) := by
  rw [results, List.forall₂_map_right_iff, List.forall₂_same]
  exact fun row _ => h row

/-- The key of a result has the value of every part, and null only for a missing one. -/
def Folds (plan : Aggregate) (row : Entries Json) (result : Json) : Prop :=
  plan.groupAliases ≠ [] → ∃ key, result.get? "objectId" = some (.obj key) ∧
    ∀ name ∈ plan.groupAliases, Entries.find? key name = some (valueIn row name)

/-- Every row has a result, in which all is in its place: the key with just the
names of its parts, which stand nowhere else, the count, which changes only
where it is a number or the text of one, and the entries that stay. The key has
the value of every part of every row just where no part is listed twice. -/
theorem results_fold_iff (plan : Aggregate) :
    (∀ rows, List.Forall₂ (fun row result => ∃ shaped, result = .obj shaped ∧
      Shapes plan row shaped) rows (plan.results rows)) ∧
    ((∀ rows, List.Forall₂ (Folds plan) rows (plan.results rows)) ↔ plan.groupAliases.Nodup) := by
  refine ⟨results_forall₂ plan fun row => ⟨_, rfl, shapes plan row⟩, ?_⟩
  rw [List.nodup_iff_count_eq_one]
  constructor
  · intro h name hname
    by_contra hcount
    have hparts : plan.groupAliases ≠ [] := List.ne_nil_of_mem hname
    -- a row that has a value for the part that is listed twice
    obtain ⟨hfolds, -⟩ := List.forall₂_cons.1 (h [[(name, .int 1)]])
    obtain ⟨key, hkey, hvalues⟩ := hfolds hparts
    obtain ⟨own, hown, -, -, hlost⟩ := (shapes plan [(name, .int 1)]).parts hparts
    obtain rfl : own = key := by
      have hsame := hown.symm.trans hkey
      simpa using hsame
    have hfound := (hlost name hname).symm.trans (hvalues name hname)
    rw [if_neg hcount, valueIn, Entries.find?_cons, if_pos rfl] at hfound
    cases hfound
  · intro honce
    refine results_forall₂ plan fun row hparts => ?_
    obtain ⟨key, hkey, -, -, hvalues⟩ := (shapes plan row).parts hparts
    refine ⟨key, hkey, fun name hname => ?_⟩
    rw [hvalues name hname, if_pos (honce name hname)]

/-- Two groups have a part of one name, and its value is nowhere in the result. -/
theorem repeated_part_lost :
    let scope := Scope.ofSchema { className := "Sale", fields := [("amount", .number)] } ⟨0, 0⟩
    let key (reference : String) : Json :=
      .obj [("$group", .obj [("_id", .obj [("day", .str reference)])])]
    ∃ made, plan scope "Sale" [key "$region", key "$amount"] = .ok made ∧
      made.groupAliases = ["day", "day"] ∧
      made.results [[("day", .int 4)]] = [.obj [("objectId", .obj [("day", .null)])]] ∧
      ¬List.Forall₂ (Folds made) [[("day", .int 4)]] (made.results [[("day", .int 4)]]) := by
  intro scope key
  have hplan : (fun made => (made.groupAliases, made.countField)) <$>
      plan scope "Sale" [key "$region", key "$amount"] = .ok (["day", "day"], none) := by
    decide +kernel
  obtain ⟨⟨statement, aliases, count⟩, hmade, hfound⟩ := map_eq_ok.1 hplan
  cases hfound
  refine ⟨_, hmade, rfl, rfl, fun hfolds => ?_⟩
  obtain ⟨key, hkey, hvalues⟩ := (List.forall₂_cons.1 hfolds).1 nofun
  cases hkey
  cases hvalues "day" List.mem_cons_self

end DocSql.Aggregate
