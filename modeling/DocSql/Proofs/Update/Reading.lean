import DocSql.Proofs.Outcome
import DocSql.Proofs.Update.Paths

/-!
Reading an update document key by key. Keys of one column gather into one
change: a whole object and dotted keys into a patch, in which a key that goes on
from another one overrides it there. Providers are gathered apart and are put
in the place of `authData` last, whatever is there. Main statement: which keys
are found again in what was read, and which documents are refused because two of
their keys clash.
-/
namespace DocSql

open Sql (segments)

abbrev Member := String × Json

def GoesOn (key longer : String) : Prop :=
  segments key <+: segments longer ∧ segments key ≠ segments longer

namespace Update

def columnKeys (members : List Member) : List Member :=
  members.filter fun member => (providers? member.1 member.2).isNone

def given (members : List Member) : List (String × Option Json) :=
  (members.filterMap fun member => providers? member.1 member.2).flatten

def Untouched (doc : List Member) (key : String) (inner : List String) : Prop :=
  ∀ other ∈ doc, GoesOn key other.1 →
    ¬segments other.1 <+: segments key ++ inner ∧ ¬segments key ++ inner <+: segments other.1

/-- A value is kept at its place, but for what longer keys of the document
override inside of it; only an object has room for them. -/
structure Kept (doc : List Member) (key : String) (value : Json)
    (held : List String → Option Json) : Prop where
  there : held [] = some value ∨
    ∃ members others, value = .obj members ∧ held [] = some (.obj others)
  inside : ∀ inner, Untouched doc key inner → held inner = value.at? inner

end Update

/-- What a dotted key asks for is among the keys of a patch, a value being kept
in the sense that is given. -/
inductive Patch.Carries (kept : String → Json → (List String → Option Json) → Prop)
    (keys : Patch) (key : String) : List String → Json → Prop
  | value {steps : List String} {value : Json} (h : Change.operation? value = none)
    (hk : kept key value fun inner => (Json.obj keys.values).at? (steps ++ inner)) :
    Carries kept keys key steps value
  | increment {step : String} {value : Json} {amount : Number}
    (h : Change.operation? value = some "Increment") (ha : Change.amount value = .ok amount)
    (hm : (step, amount) ∈ keys.increments) : Carries kept keys key [step] value
  | delete {step : String} {value : Json} (h : Change.operation? value = some "Delete")
    (hm : step ∈ keys.deletes) : Carries kept keys key [step] value

namespace Update

/-- What a key asks for is in the change of its column: a dotted key in a patch,
another one as it is, or as the object that a patch starts from. -/
inductive Carries (kept : String → Json → (List String → Option Json) → Prop) (update : Update)
    (key : String) (value : Json) : Prop
  | dotted {field step : String} {path : List String} {keys : Patch}
    (hs : segments key = field :: step :: path)
    (hf : Entries.find? update field = some (.patch keys))
    (hc : keys.Carries kept key (step :: path) value)
  | plain {field : String} {change : Change} (hs : segments key = [field])
    (hc : Change.ofJson value = .ok change) (hf : Entries.find? update field = some change)
  | whole {field : String} {members : Entries Json} {keys : Patch} (hs : segments key = [field])
    (hc : Change.ofJson value = .ok (.set (.obj members)))
    (hf : Entries.find? update field = some (.patch keys)) (hm : keys.merge = false)
    (hk : kept key (.obj members) fun inner => (Json.obj keys.values).at? inner)

/-- A member is found again in what was read: its providers among the providers,
what it asks for in the change of its column. -/
def Represents (members : List Member) (update : Update) (member : Member) : Prop :=
  match providers? member.1 member.2 with
  | some entries => ∀ entry ∈ entries, ∃ all,
      Entries.find? update "authData" = some (.providers all) ∧ entry ∈ all
  | none => update.Carries (Kept (columnKeys members)) member.1 member.2

/-- The ways to lose a key about a column: providers are put in the place of
`authData`, or a longer key needs an object where the value is none. -/
def Lost (members : List Member) (member : Member) : Prop :=
  providers? member.1 member.2 = none ∧
    ((segments member.1).head? = some "authData" ∧ given members ≠ [] ∨
      Change.operation? member.2 = none ∧ member.2.obj? = none ∧
        ∃ other ∈ columnKeys members, GoesOn member.1 other.1)

def Clashes (doc : List Member) (field : String) : Prop :=
  (∃ member ∈ doc, segments member.1 = [field] ∧
    ∀ whole, Change.ofJson member.2 ≠ .ok (.set (.obj whole))) ∧
  ∃ member ∈ doc, ∃ step path, segments member.1 = field :: step :: path

/-- How a value stands while a document is read: where longer keys were read
there is an object, and what they have nothing to do with is as it was given. -/
structure Placed (done : List Member) (key : String) (value : Json)
    (held : List String → Option Json) : Prop where
  above : (∃ other ∈ done, GoesOn key other.1) → ∃ others, held [] = some (.obj others)
  inside : ∀ inner, Untouched done key inner → held inner = value.at? inner

variable {done : List Member} {key other : String} {value : Json}
  {held : List String → Option Json}

theorem Untouched.of_append {inner : List String} {later : List Member}
    (h : Untouched (done ++ later) key inner) : Untouched done key inner :=
  fun other hother => h other (List.mem_append_left _ hother)

theorem Placed.alone (h : Placed done key value held)
    (hnone : ∀ other ∈ done, ¬GoesOn key other.1) : held [] = some value :=
  h.inside [] fun other hother hlonger => absurd hlonger (hnone other hother)

theorem Placed.kept_iff (h : Placed done key value held) :
    Kept done key value held ↔
      ¬(value.obj? = none ∧ ∃ other ∈ done, GoesOn key other.1) := by
  constructor
  · rintro ⟨hthere, -⟩ ⟨hvalue, hlonger⟩
    obtain ⟨others, hobject⟩ := h.above hlonger
    rcases hthere with hsame | ⟨members, -, rfl, -⟩
    · rw [hobject] at hsame
      cases hsame
      cases hvalue
    · cases hvalue
  · intro hnot
    refine ⟨?_, h.inside⟩
    by_cases hlonger : ∃ other ∈ done, GoesOn key other.1
    · obtain ⟨others, hobject⟩ := h.above hlonger
      cases value with
      | obj members => exact .inr ⟨members, others, rfl, hobject⟩
      | null | bool | num | str | arr => exact absurd ⟨rfl, hlonger⟩ hnot
    · exact .inl (h.alone fun other hother hgoes => hlonger ⟨other, hother, hgoes⟩)

theorem Placed.grow (h : Placed done key value held) {member : Member}
    (hn : GoesOn key member.1 → ∃ others, held [] = some (.obj others)) :
    Placed (done ++ [member]) key value held where
  above := by
    rintro ⟨longer, hlonger, hgoes⟩
    rcases List.mem_append.1 hlonger with hdone | hnew
    · exact h.above ⟨longer, hdone, hgoes⟩
    · exact hn (List.mem_singleton.1 hnew ▸ hgoes)
  inside inner huntouched := h.inside inner huntouched.of_append

theorem Placed.put {values : Entries Json} {field : String} {steps path : List String}
    {newer : Json} (hk : segments key = field :: steps) (ho : segments other = field :: path)
    (hlater : ¬segments other <+: segments key)
    (h : Placed done key value fun inner => (Json.obj values).at? (steps ++ inner)) :
    Placed (done ++ [(other, newer)]) key value fun inner =>
      (Json.obj (Patch.insertPath values path newer)).at? (steps ++ inner) := by
  have hbelow : ¬path <+: steps := fun hbegins =>
    hlater (hk ▸ ho ▸ List.cons_prefix_cons.2 ⟨rfl, hbegins⟩)
  have hgoes : GoesOn key other ↔ steps <+: path := by
    unfold GoesOn
    rw [hk, ho, List.cons_prefix_cons]
    refine ⟨fun hgoes => hgoes.1.2, fun hbegins => ⟨⟨rfl, hbegins⟩, fun hsame => ?_⟩⟩
    exact hbelow ((List.cons.inj hsame).2 ▸ List.prefix_rfl)
  have hbeside (inner : List String) (hb : ¬path <+: steps ++ inner)
      (ha : ¬steps ++ inner <+: path) :
      (Json.obj (Patch.insertPath values path newer)).at? (steps ++ inner) =
        (Json.obj values).at? (steps ++ inner) :=
    Patch.at?_insertPath_beside values newer hb ha
  by_cases hbegins : steps <+: path
  · have hne : steps ≠ path := fun hsame => hbelow (hsame ▸ List.prefix_rfl)
    refine ⟨fun _ => ?_, fun inner huntouched => ?_⟩
    · rw [List.append_nil]
      exact Patch.at?_insertPath_above values newer hbegins hne
    · obtain ⟨hb, ha⟩ := huntouched _ (List.mem_append_right _ List.mem_cons_self) (hgoes.2 hbegins)
      rw [hk, ho, List.cons_append, List.cons_prefix_cons] at hb ha
      rw [hbeside inner (fun hp => hb ⟨rfl, hp⟩) fun hp => ha ⟨rfl, hp⟩]
      exact h.inside inner huntouched.of_append
  · -- Neither path goes on from the other, so nothing inside the value is touched.
    have hsame (inner : List String) := hbeside inner
      (fun hp => (List.prefix_or_prefix_of_prefix hp (List.prefix_append ..)).elim hbelow hbegins)
      fun hp => hbegins ((List.prefix_append ..).trans hp)
    simp only [hsame]
    exact h.grow fun hg => absurd (hgoes.1 hg) hbegins

end Update

namespace Patch

variable {kept : String → Json → (List String → Option Json) → Prop} {keys more : Patch}
  {key field step : String} {path steps : List String} {value : Json}

/-- The ways to add what a dotted key asks for. -/
inductive Added (keys : Patch) (value : Json) : List String → Patch → Prop
  | value {path : List String} (h : Change.operation? value = none) :
    Added keys value path { keys with values := insertPath keys.values path value }
  | increment {step : String} {amount : Number}
    (h : Change.operation? value = some "Increment") (ha : Change.amount value = .ok amount) :
    Added keys value [step] { keys with increments := keys.increments ++ [(step, amount)] }
  | delete {step : String} (h : Change.operation? value = some "Delete") :
    Added keys value [step] { keys with deletes := keys.deletes ++ [step] }

theorem added (h : keys.add field path value = .ok more) : Added keys value path more := by
  unfold add at h
  split at h
  next hop =>
    cases h
    exact .value hop
  next hop =>
    cases hamount : Change.amount value with
    | error e =>
      rw [hamount] at h
      cases h
    | ok amount =>
      rw [hamount] at h
      cases h
      exact .increment hop hamount
  next hop =>
    cases h
    exact .delete hop
  next => cases h

namespace Added

variable (h : Added keys value path more)
include h

theorem merge : more.merge = keys.merge := by cases h <;> rfl

theorem increments : keys.increments ⊆ more.increments := by
  cases h with
  | increment => exact List.subset_append_left _ _
  | value | delete => exact List.Subset.refl _

theorem deletes : keys.deletes ⊆ more.deletes := by
  cases h with
  | delete => exact List.subset_append_left _ _
  | value | increment => exact List.Subset.refl _

end Added

theorem add_ok (h : keys.add field path value = .ok more) (other : Patch) :
    ∃ more', other.add field path value = .ok more' := by
  unfold add at h ⊢
  split at h
  next hop => exact ⟨_, rfl⟩
  next hop =>
    cases hamount : Change.amount value with
    | error e =>
      rw [hamount] at h
      cases h
    | ok amount => exact ⟨_, rfl⟩
  next hop => exact ⟨_, rfl⟩
  next => cases h

theorem Carries.mono {kept' : String → Json → (List String → Option Json) → Prop}
    (h : keys.Carries kept key steps value)
    (hk : kept key value (fun inner => (Json.obj keys.values).at? (steps ++ inner)) →
      kept' key value fun inner => (Json.obj more.values).at? (steps ++ inner))
    (hi : keys.increments ⊆ more.increments) (hd : keys.deletes ⊆ more.deletes) :
    more.Carries kept' key steps value := by
  cases h with
  | value h hkept => exact .value h (hk hkept)
  | increment h ha hm => exact .increment h ha (hi hm)
  | delete h hm => exact .delete h (hd hm)

open Update (Placed)

variable {done : List Member} {other : String} {newer : Json}

theorem Added.carries (h : Added keys value path more) (hs : segments key = field :: path)
    (hne : path ≠ []) (hlater : ∀ member ∈ done, ¬segments key <+: segments member.1) :
    more.Carries (Placed (done ++ [(key, value)])) key path value := by
  cases h with
  | value h =>
    refine .value h ⟨?_, fun inner _ => at?_insertPath_below _ _ hne inner⟩
    rintro ⟨longer, hlonger, hgoes⟩
    rcases List.mem_append.1 hlonger with hdone | hnew
    · exact absurd hgoes.1 (hlater longer hdone)
    · rw [List.mem_singleton.1 hnew] at hgoes
      exact absurd rfl hgoes.2
  | increment h ha => exact .increment h ha (List.mem_append_right _ List.mem_cons_self)
  | delete h => exact .delete h (List.mem_append_right _ List.mem_cons_self)

theorem Added.placed (h : Added keys newer path more) (hk : segments key = field :: steps)
    (ho : segments other = field :: path) (hlater : ¬segments other <+: segments key)
    (hp : Placed done key value fun inner => (Json.obj keys.values).at? (steps ++ inner)) :
    Placed (done ++ [(other, newer)]) key value fun inner =>
      (Json.obj more.values).at? (steps ++ inner) := by
  have hroot {step : String} (hgoes : GoesOn key other) (hpath : path = [step]) :
      ∃ others, (Json.obj keys.values).at? (steps ++ []) = some (.obj others) := by
    obtain ⟨hbegins, hne⟩ := hgoes
    rw [hk, ho, hpath, List.cons_prefix_cons] at hbegins
    cases steps with
    | nil => exact ⟨_, rfl⟩
    | cons first rest =>
      obtain ⟨rfl, hrest⟩ := List.cons_prefix_cons.1 hbegins.2
      rw [List.prefix_nil.1 hrest, ← hpath] at hk
      exact absurd (hk.trans ho.symm) hne
  cases h with
  | value h => exact hp.put hk ho hlater
  | increment h ha => exact hp.grow (hroot · rfl)
  | delete h => exact hp.grow (hroot · rfl)

end Patch

namespace Change

variable {value : Json} {change : Change}

theorem ofJson_kinds (h : ofJson value = .ok change) :
    change = unset ∨ operation? value = none ∧ change = set value ∨
      (∃ amount, change = increment amount) ∨ ∃ kind items, change = list kind items := by
  have hmap {α : Type} {f : α → Change} {work : Except Error α} (hf : f <$> work = .ok change) :
      ∃ a, change = f a := (exists_of_map_eq_ok hf).imp fun _ => Eq.symm
  unfold ofJson at h
  split at h
  · cases h
    exact .inl rfl
  · split at h
    next hop =>
      cases h
      exact .inr (.inl ⟨hop, rfl⟩)
    next => exact .inr (.inr (.inl (hmap h)))
    next => exact .inr (.inr (.inr ⟨_, hmap h⟩))
    next => exact .inr (.inr (.inr ⟨_, hmap h⟩))
    next => exact .inr (.inr (.inr ⟨_, hmap h⟩))
    next =>
      cases h
      exact .inl rfl
    next => cases h

theorem ofJson_ne_patch (h : ofJson value = .ok change) (keys : Patch) : change ≠ patch keys := by
  rcases ofJson_kinds h with rfl | ⟨-, rfl⟩ | ⟨amount, rfl⟩ | ⟨kind, items, rfl⟩ <;> exact nofun

theorem ofJson_ne_providers (h : ofJson value = .ok change)
    (entries : List (String × Option Json)) : change ≠ providers entries := by
  rcases ofJson_kinds h with rfl | ⟨-, rfl⟩ | ⟨amount, rfl⟩ | ⟨kind, items, rfl⟩ <;> exact nofun

theorem ofJson_set {held : Json} (h : ofJson value = .ok (set held)) :
    operation? value = none ∧ value = held := by
  rcases ofJson_kinds h with hsame | ⟨hop, hsame⟩ | ⟨amount, hsame⟩ | ⟨kind, items, hsame⟩ <;>
    cases hsame
  exact ⟨hop, rfl⟩

end Change

namespace Update

variable {update next : Update} {done : List Member} {key field step : String}
  {path : List String} {value : Json}

/-- Where the patch that a dotted key goes into comes from. -/
inductive Starts (update : Update) (field : String) : Patch → Prop
  | merging (h : Entries.find? update field = none) : Starts update field { merge := true }
  | patch {keys : Patch} (h : Entries.find? update field = some (.patch keys)) :
    Starts update field keys
  | whole {members : Entries Json} (h : Entries.find? update field = some (.set (.obj members))) :
    Starts update field { values := members }

theorem patchOf_starts {keys : Patch} (h : patchOf update field = .ok keys) :
    Starts update field keys := by
  unfold patchOf at h
  split at h
  next hf =>
    cases h
    exact .merging hf
  next hf =>
    cases h
    exact .patch hf
  next hf =>
    cases h
    exact .whole hf
  next => cases h

theorem addField_dotted (hs : segments key = field :: step :: path) :
    update.addField key value = patchOf update field >>= fun keys =>
      (fun more => Entries.insert update field (.patch more)) <$>
        keys.add field (step :: path) value := by
  unfold addField
  rw [hs]
  change (patchOf update field >>= _) = _
  cases patchOf update field with
  | error e => rfl
  | ok keys =>
    change (keys.add field (step :: path) value >>= _) = _ <$> keys.add field (step :: path) value
    cases keys.add field (step :: path) value with
    | _ => rfl

theorem providers?_dotted (hp : provider? key = none) (hs : segments key = field :: step :: path) :
    providers? key value = none := by
  have hauth : key ≠ "authData" := by
    rintro rfl
    have hsingle : segments "authData" = ["authData"] := by decide
    cases hsingle.symm.trans hs
  unfold providers?
  rw [hp]
  cases value with
  | obj members => exact if_neg hauth
  | null | bool _ | num _ | str _ | arr _ => rfl

theorem addField_plain (hs : segments key = [field]) (hn : Entries.find? update field = none) :
    update.addField key value = Entries.insert update field <$> Change.ofJson value := by
  obtain rfl := Sql.eq_of_segments_singleton hs
  unfold addField
  rw [hs]
  cases Change.ofJson value with
  | error e => rfl
  | ok change => simp [hn]

/-- What has been read: every column that changes is of a key, and every key is
in the change of its column. -/
structure Reads (done : List Member) (update : Update) : Prop where
  named : ∀ field change, Entries.find? update field = some change →
    ∃ member ∈ done, (segments member.1).head? = some field
  carries : ∀ member ∈ done, update.Carries (Placed done) member.1 member.2

theorem reads_nil : Reads [] [] where
  named _ _ h := by cases h
  carries _ h := absurd h List.not_mem_nil

section Step

variable {member : Member} {keys more : Patch}

theorem Carries.other {change : Change} {longer : String} {newer : Json}
    (h : update.Carries (Placed done) member.1 member.2)
    (hl : (segments longer).head? = some field) (hf : (segments member.1).head? ≠ some field) :
    Carries (Placed (done ++ [(longer, newer)])) (Entries.insert update field change)
      member.1 member.2 := by
  have hgrow {value : Json} {held : List String → Option Json}
      (hp : Placed done member.1 value held) :
      Placed (done ++ [(longer, newer)]) member.1 value held := by
    refine hp.grow fun hgoes => absurd ?_ hf
    obtain ⟨name, steps, hsegments⟩ := List.exists_cons_of_ne_nil (Sql.segments_ne_nil member.1)
    obtain ⟨rest, hrest⟩ := hgoes.1
    rw [← hrest, hsegments] at hl
    rw [hsegments]
    exact hl
  have hfind {name : String} {steps : List String} (hs : segments member.1 = name :: steps) :
      Entries.find? (Entries.insert update field change) name = Entries.find? update name := by
    refine Entries.find?_insert_other _ _ fun hsame => hf ?_
    rw [hs, hsame]
    rfl
  cases h with
  | dotted hs hfound hc =>
    exact .dotted hs ((hfind hs).trans hfound)
      (hc.mono hgrow (List.Subset.refl _) (List.Subset.refl _))
  | plain hs hc hfound => exact .plain hs hc ((hfind hs).trans hfound)
  | whole hs hc hfound hm hk => exact .whole hs hc ((hfind hs).trans hfound) hm (hgrow hk)

theorem Carries.same (h : update.Carries (Placed done) member.1 member.2)
    (hf : (segments member.1).head? = some field) (hs : segments key = field :: step :: path)
    (hlater : ¬segments key <+: segments member.1) (hstarts : Starts update field keys)
    (hadded : Patch.Added keys value (step :: path) more) :
    Carries (Placed (done ++ [(key, value)])) (Entries.insert update field (.patch more))
      member.1 member.2 := by
  have hplaced {steps : List String} {older : Json} (hk : segments member.1 = field :: steps)
      (hp : Placed done member.1 older fun inner => (Json.obj keys.values).at? (steps ++ inner)) :=
    hadded.placed hk hs hlater hp
  have hhead {name : String} {steps : List String} (hm : segments member.1 = name :: steps) :
      name = field := by
    rw [hm] at hf
    exact Option.some.inj hf
  have hfind := Entries.find?_insert_self update field (.patch more)
  cases h with
  | dotted hm hfound hc =>
    obtain rfl := hhead hm
    cases hstarts with
    | merging hnone => cases hnone.symm.trans hfound
    | whole hwhole => cases hwhole.symm.trans hfound
    | patch hpatch =>
      cases hpatch.symm.trans hfound
      exact .dotted hm hfind (hc.mono (hplaced hm) hadded.increments hadded.deletes)
  | plain hm hc hfound =>
    obtain rfl := hhead hm
    cases hstarts with
    | merging hnone => cases hnone.symm.trans hfound
    | patch hpatch =>
      exact absurd (Option.some.inj (hfound.symm.trans hpatch)) (Change.ofJson_ne_patch hc _)
    | whole hwhole =>
      cases hwhole.symm.trans hfound
      exact .whole hm hc hfind hadded.merge (hplaced hm ⟨fun _ => ⟨_, rfl⟩, fun _ _ => rfl⟩)
  | whole hm hc hfound hmerge hk =>
    obtain rfl := hhead hm
    cases hstarts with
    | merging hnone => cases hnone.symm.trans hfound
    | whole hwhole => cases hwhole.symm.trans hfound
    | patch hpatch =>
      cases hpatch.symm.trans hfound
      exact .whole hm hc hfind (hadded.merge.trans hmerge) (hplaced hm hk)

end Step

theorem head?_ne_of_later (hs : segments key = [field]) {earlier : String}
    (hlater : ¬segments key <+: segments earlier) : (segments earlier).head? ≠ some field := by
  intro hhead
  obtain ⟨name, steps, hsegments⟩ := List.exists_cons_of_ne_nil (Sql.segments_ne_nil earlier)
  rw [hsegments] at hhead
  cases hhead
  refine hlater ?_
  rw [hs, hsegments]
  exact List.cons_prefix_cons.2 ⟨rfl, List.nil_prefix⟩

theorem Reads.find?_plain (h : Reads done update) (hs : segments key = [field])
    (hlater : ∀ member ∈ done, ¬segments key <+: segments member.1) :
    Entries.find? update field = none := by
  cases hfound : Entries.find? update field with
  | none => rfl
  | some change =>
    obtain ⟨member, hmember, hhead⟩ := h.named field change hfound
    exact absurd hhead (head?_ne_of_later hs (hlater member hmember))

theorem Reads.insert (h : Reads done update) {change : Change}
    (hs : (segments key).head? = some field)
    (hnew : Carries (Placed (done ++ [(key, value)])) (Entries.insert update field change) key value)
    (hsame : ∀ member ∈ done, (segments member.1).head? = some field →
      Carries (Placed (done ++ [(key, value)])) (Entries.insert update field change)
        member.1 member.2) :
    Reads (done ++ [(key, value)]) (Entries.insert update field change) where
  named name held hfound := by
    by_cases hname : field = name
    · exact ⟨(key, value), List.mem_append_right _ List.mem_cons_self, hname ▸ hs⟩
    · rw [Entries.find?_insert_other _ _ hname] at hfound
      obtain ⟨member, hmember, hhead⟩ := h.named name held hfound
      exact ⟨member, List.mem_append_left _ hmember, hhead⟩
  carries member hmember := by
    rcases List.mem_append.1 hmember with hdone | hlast
    · by_cases hhead : (segments member.1).head? = some field
      · exact hsame member hdone hhead
      · exact (h.carries member hdone).other hs hhead
    · rw [List.mem_singleton.1 hlast]
      exact hnew

theorem Reads.addField (h : Reads done update) (hadd : update.addField key value = .ok next)
    (hlater : ∀ member ∈ done, ¬segments key <+: segments member.1) :
    Reads (done ++ [(key, value)]) next := by
  obtain ⟨field, rest, hs⟩ := List.exists_cons_of_ne_nil (Sql.segments_ne_nil key)
  have hhead : (segments key).head? = some field := by rw [hs]; rfl
  have hfind (change : Change) := Entries.find?_insert_self update field change
  cases rest with
  | nil =>
    have hnone := h.find?_plain hs hlater
    rw [addField_plain hs hnone] at hadd
    cases hchange : Change.ofJson value with
    | error e =>
      rw [hchange] at hadd
      cases hadd
    | ok change =>
      rw [hchange] at hadd
      cases hadd
      refine h.insert hhead (.plain hs hchange (hfind change)) fun member hmember hcolumn => ?_
      exact absurd hcolumn (head?_ne_of_later hs (hlater member hmember))
  | cons step path =>
    rw [addField_dotted hs] at hadd
    cases hpatch : patchOf update field with
    | error e =>
      rw [hpatch] at hadd
      cases hadd
    | ok keys =>
      rw [hpatch] at hadd
      change _ <$> keys.add field (step :: path) value = _ at hadd
      cases hmore : keys.add field (step :: path) value with
      | error e =>
        rw [hmore] at hadd
        cases hadd
      | ok more =>
        rw [hmore] at hadd
        cases hadd
        have hadded := Patch.added hmore
        refine h.insert hhead
          (.dotted hs (hfind _) (hadded.carries hs (List.cons_ne_nil _ _) hlater)) ?_
        intro member hmember hcolumn
        exact (h.carries member hmember).same hcolumn hs (hlater member hmember)
          (patchOf_starts hpatch) hadded

def conflict (field : String) : Error :=
  .invalidQuery ("conflicting updates for field '" ++ field ++ "'")

theorem patchOf_error {e : Error} (h : patchOf update field = .error e) :
    e = conflict field ∧ ∃ change, Entries.find? update field = some change ∧
      (∀ keys, change ≠ .patch keys) ∧ ∀ whole, change ≠ .set (.obj whole) := by
  unfold patchOf at h
  split at h
  next => cases h
  next => cases h
  next => cases h
  next change hnopatch hnoobject hfound =>
    cases h
    exact ⟨rfl, change, hfound, hnopatch, hnoobject⟩

theorem Reads.exists_plain (h : Reads done update) {change : Change}
    (hfound : Entries.find? update field = some change)
    (hnopatch : ∀ keys, change ≠ .patch keys) :
    ∃ member ∈ done, segments member.1 = [field] ∧ Change.ofJson member.2 = .ok change := by
  obtain ⟨member, hmember, hhead⟩ := h.named field change hfound
  have hcolumn {name : String} {steps : List String} (hm : segments member.1 = name :: steps) :
      name = field := by
    rw [hm] at hhead
    exact Option.some.inj hhead
  cases h.carries member hmember with
  | dotted hm hpatched | whole hm _ hpatched =>
    obtain rfl := hcolumn hm
    exact absurd (Option.some.inj (hfound.symm.trans hpatched)) (hnopatch _)
  | plain hm hc hplain =>
    obtain rfl := hcolumn hm
    cases hfound.symm.trans hplain
    exact ⟨member, hmember, hm, hc⟩

theorem add_of_alone (hs : segments key = field :: step :: path)
    (halone : Update.addField [] key value = .ok next) (keys : Patch) :
    ∃ more, keys.add field (step :: path) value = .ok more := by
  rw [addField_dotted hs] at halone
  change _ <$> Patch.add { merge := true } field (step :: path) value = _ at halone
  cases hadd : Patch.add { merge := true } field (step :: path) value with
  | error e =>
    rw [hadd] at halone
    cases halone
  | ok more => exact Patch.add_ok hadd keys

theorem Reads.addField_or_clashes (h : Reads done update)
    (halone : ∃ update', Update.addField [] key value = .ok update')
    (hlater : ∀ member ∈ done, ¬segments key <+: segments member.1) :
    (∃ next, update.addField key value = .ok next) ∨
      ∃ field, Clashes (done ++ [(key, value)]) field ∧
        update.addField key value = .error (conflict field) := by
  obtain ⟨update', halone⟩ := halone
  obtain ⟨field, rest, hs⟩ := List.exists_cons_of_ne_nil (Sql.segments_ne_nil key)
  cases rest with
  | nil =>
    have hnone := h.find?_plain hs hlater
    rw [addField_plain hs rfl] at halone
    rw [addField_plain hs hnone]
    cases hchange : Change.ofJson value with
    | error e =>
      rw [hchange] at halone
      cases halone
    | ok change => exact .inl ⟨_, rfl⟩
  | cons step path =>
    rw [addField_dotted hs]
    cases hpatch : patchOf update field with
    | ok keys =>
      obtain ⟨more, hmore⟩ := add_of_alone hs halone keys
      refine .inl ⟨Entries.insert update field (.patch more), ?_⟩
      change _ <$> keys.add field (step :: path) value = _
      rw [hmore]
      rfl
    | error e =>
      obtain ⟨rfl, change, hfound, hnopatch, hnoobject⟩ := patchOf_error hpatch
      obtain ⟨plain, hplain, hsegments, hchange⟩ := h.exists_plain hfound hnopatch
      refine .inr ⟨field, ⟨⟨plain, List.mem_append_left _ hplain, hsegments, fun whole hwhole => ?_⟩,
        ⟨(key, value), List.mem_append_right _ List.mem_cons_self, step, path, hs⟩⟩, rfl⟩
      rw [hchange] at hwhole
      exact hnoobject whole (Except.ok.inj hwhole)

def readKeys (update : Update) (doc : List Member) : Except Error Update :=
  doc.foldlM (fun update member => update.addField member.1 member.2) update

variable {doc : List Member}

theorem readKeys_cons (member : Member) :
    update.readKeys (member :: doc) = update.addField member.1 member.2 >>= (readKeys · doc) := rfl

def InOrder (doc : List Member) : Prop :=
  doc.Pairwise fun earlier later => ¬segments later.1 <+: segments earlier.1

theorem InOrder.later {member : Member} (h : InOrder (done ++ member :: doc)) :
    ∀ earlier ∈ done, ¬segments member.1 <+: segments earlier.1 :=
  fun earlier hearlier => (List.pairwise_append.1 h).2.2 earlier hearlier member List.mem_cons_self

theorem Reads.run (h : Reads done update) (ho : InOrder (done ++ doc))
    (hread : update.readKeys doc = .ok next) : Reads (done ++ doc) next := by
  induction doc generalizing done update with
  | nil =>
    cases hread
    rwa [List.append_nil]
  | cons member rest ih =>
    rw [readKeys_cons] at hread
    cases hadd : update.addField member.1 member.2 with
    | error e =>
      rw [hadd] at hread
      cases hread
    | ok first =>
      rw [hadd] at hread
      rw [List.append_cons]
      exact ih (h.addField hadd ho.later) (by rwa [← List.append_cons]) hread

theorem Clashes.mono {more : List Member} (h : Clashes doc field) (hm : doc ⊆ more) :
    Clashes more field := by
  obtain ⟨⟨plain, hplain, hp⟩, dotted, hdotted, hd⟩ := h
  exact ⟨⟨plain, hm hplain, hp⟩, dotted, hm hdotted, hd⟩

theorem Reads.run_or_clashes (h : Reads done update) (ho : InOrder (done ++ doc))
    (ha : ∀ member ∈ doc, ∃ alone, Update.addField [] member.1 member.2 = .ok alone) :
    (∃ final, update.readKeys doc = .ok final) ∨
      ∃ field, Clashes (done ++ doc) field ∧ update.readKeys doc = .error (conflict field) := by
  induction doc generalizing done update with
  | nil => exact .inl ⟨update, rfl⟩
  | cons member rest ih =>
    rw [readKeys_cons, List.append_cons]
    rcases h.addField_or_clashes (ha member List.mem_cons_self) ho.later with
      ⟨first, hadd⟩ | ⟨field, hclashes, hadd⟩
    · rw [hadd]
      exact ih (h.addField hadd ho.later) (by rwa [← List.append_cons])
        fun other hother => ha other (List.mem_cons_of_mem member hother)
    · rw [hadd]
      exact .inr ⟨field, hclashes.mono (List.subset_append_left _ _), rfl⟩

theorem Reads.not_clashes (h : Reads done update) : ¬Clashes done field := by
  rintro ⟨⟨plain, hplain, hp, hobject⟩, dotted, hdotted, step, path, hd⟩
  have hpatched : ∃ keys, Entries.find? update field = some (.patch keys) := by
    cases h.carries dotted hdotted with
    | plain hs | whole hs => cases hd.symm.trans hs
    | dotted hs hfound =>
      cases hd.symm.trans hs
      exact ⟨_, hfound⟩
  obtain ⟨keys, hkeys⟩ := hpatched
  cases h.carries plain hplain with
  | dotted hs => cases hp.symm.trans hs
  | whole hs hc => exact hobject _ hc
  | plain hs hc hfound =>
    cases hp.symm.trans hs
    exact Change.ofJson_ne_patch hc keys (Option.some.inj (hfound.symm.trans hkeys))

def finish (update : Update) (entries : List (String × Option Json)) : Update :=
  if entries.isEmpty then update else Entries.insert update "authData" (.providers entries)

theorem addMembers_eq (entries : List (String × Option Json)) (members : List Member) :
    addMembers update entries members =
      (finish · (entries ++ given members)) <$> update.readKeys (columnKeys members) := by
  induction members generalizing update entries with
  | nil =>
    rw [given, List.filterMap_nil, List.flatten_nil, List.append_nil]
    rfl
  | cons member rest ih =>
    obtain ⟨key, value⟩ := member
    unfold addMembers
    cases hp : providers? key value with
    | some more =>
      have hgiven : given ((key, value) :: rest) = more ++ given rest := by
        simp [given, hp]
      have hkeys : columnKeys ((key, value) :: rest) = columnKeys rest := by
        simp [columnKeys, hp]
      rw [hgiven, hkeys, ← List.append_assoc]
      exact ih _
    | none =>
      have hgiven : given ((key, value) :: rest) = given rest := by
        simp [given, hp]
      have hkeys : columnKeys ((key, value) :: rest) = (key, value) :: columnKeys rest := by
        simp [columnKeys, hp]
      rw [hgiven, hkeys, readKeys_cons]
      change (update.addField key value >>= fun first => addMembers first entries rest) = _
      cases hadd : update.addField key value with
      | error e => rfl
      | ok first => exact ih entries

theorem ofJson_eq (members : List Member) :
    ofJson (.obj members) =
      (finish · (given members)) <$> Update.readKeys [] (columnKeys members) :=
  addMembers_eq [] members

variable {members : List Member} {member : Member}

theorem carries_finish_iff {entries : List (String × Option Json)}
    {kept : String → Json → (List String → Option Json) → Prop} :
    Carries kept (update.finish entries) key value ↔
      Carries kept update key value ∧
        ¬((segments key).head? = some "authData" ∧ entries ≠ []) := by
  cases entries with
  | nil => simp [finish]
  | cons entry rest =>
    have hfinish : update.finish (entry :: rest) =
        Entries.insert update "authData" (.providers (entry :: rest)) := rfl
    have hcolumn {field : String} {steps : List String} (hs : segments key = field :: steps) :
        ((segments key).head? = some "authData" ∧ entry :: rest ≠ []) ↔ "authData" = field := by
      simp [hs, eq_comm]
    have hother {field : String} (hf : "authData" ≠ field) :
        Entries.find? (Entries.insert update "authData" (.providers (entry :: rest))) field =
          Entries.find? update field := Entries.find?_insert_other _ _ hf
    have hself := Entries.find?_insert_self update "authData" (.providers (entry :: rest))
    rw [hfinish]
    constructor
    · intro h
      cases h with
      | @dotted field step path keys hs hf hc =>
        rw [hcolumn hs]
        by_cases hfield : "authData" = field
        · subst hfield
          cases hself.symm.trans hf
        · exact ⟨.dotted hs ((hother hfield).symm.trans hf) hc, hfield⟩
      | @plain field change hs hc hf =>
        rw [hcolumn hs]
        by_cases hfield : "authData" = field
        · subst hfield
          exact absurd (Option.some.inj (hf.symm.trans hself)) (Change.ofJson_ne_providers hc _)
        · exact ⟨.plain hs hc ((hother hfield).symm.trans hf), hfield⟩
      | @whole field members keys hs hc hf hm hk =>
        rw [hcolumn hs]
        by_cases hfield : "authData" = field
        · subst hfield
          cases hself.symm.trans hf
        · exact ⟨.whole hs hc ((hother hfield).symm.trans hf) hm hk, hfield⟩
    · rintro ⟨h, hfield⟩
      cases h with
      | dotted hs hf hc => exact .dotted hs ((hother (mt (hcolumn hs).2 hfield)).trans hf) hc
      | plain hs hc hf => exact .plain hs hc ((hother (mt (hcolumn hs).2 hfield)).trans hf)
      | whole hs hc hf hm hk =>
        exact .whole hs hc ((hother (mt (hcolumn hs).2 hfield)).trans hf) hm hk

theorem Reads.kept_iff (h : Reads doc update) (hm : member ∈ doc) :
    Carries (Kept doc) update member.1 member.2 ↔
      ¬(Change.operation? member.2 = none ∧ member.2.obj? = none ∧
        ∃ other ∈ doc, GoesOn member.1 other.1) := by
  obtain ⟨key, value⟩ := member
  cases h.carries _ hm with
  | @dotted field step path keys hs hf hc =>
    cases hc with
    | value hop hplaced =>
      have hkept := hplaced.kept_iff
      constructor
      · rintro hcarries ⟨-, hlost⟩
        cases hcarries with
        | plain hs' | whole hs' => cases hs.symm.trans hs'
        | dotted hs' hf' hc' =>
          cases hs.symm.trans hs'
          cases hf.symm.trans hf'
          cases hc' with
          | value _ hk => exact hkept.1 hk hlost
          | increment hop' | delete hop' => cases hop.symm.trans hop'
      · intro hnot
        exact .dotted hs hf (.value hop (hkept.2 fun hlost => hnot ⟨hop, hlost⟩))
    | increment hop ha hmem =>
      have hnone : Change.operation? value ≠ none := by rw [hop]; exact Option.some_ne_none _
      exact ⟨fun _ hlost => hnone hlost.1, fun _ => .dotted hs hf (.increment hop ha hmem)⟩
    | delete hop hmem =>
      have hnone : Change.operation? value ≠ none := by rw [hop]; exact Option.some_ne_none _
      exact ⟨fun _ hlost => hnone hlost.1, fun _ => .dotted hs hf (.delete hop hmem)⟩
  | @plain field change hs hc hf =>
    refine ⟨fun _ ⟨_, hvalue, other, hother, hgoes⟩ => ?_, fun _ => .plain hs hc hf⟩
    have hnone : ¬Clashes doc field := h.not_clashes
    refine hnone ⟨⟨(key, value), hm, hs, fun whole hwhole => ?_⟩, ?_⟩
    · rw [(Change.ofJson_set hwhole).2] at hvalue
      cases hvalue
    · obtain ⟨⟨rest, hrest⟩, hne⟩ := hgoes
      cases rest with
      | nil => exact absurd ((List.append_nil _).symm.trans hrest) hne
      | cons step path => exact ⟨other, hother, step, path, by rw [← hrest, hs]; rfl⟩
  | @whole field members keys hs hc hf hmerge hplaced =>
    obtain rfl := (Change.ofJson_set hc).2
    refine ⟨fun _ hlost => (nomatch hlost.2.1), fun _ => .whole hs hc hf hmerge ?_⟩
    exact hplaced.kept_iff.2 fun hlost => nomatch hlost.1

theorem inOrder_columnKeys (hsorted : (Entries.keys members).Pairwise (· < ·)) :
    InOrder (columnKeys members) :=
  (Sql.not_begins_of_sorted hsorted).filter _

theorem mem_given {entries : List (String × Option Json)} {entry : String × Option Json}
    (hm : member ∈ members) (hp : providers? member.1 member.2 = some entries)
    (he : entry ∈ entries) : entry ∈ given members :=
  List.mem_flatten.2 ⟨entries, List.mem_filterMap.2 ⟨member, hm, hp⟩, he⟩

theorem find?_finish {entries : List (String × Option Json)} (hne : entries ≠ []) :
    Entries.find? (update.finish entries) "authData" = some (.providers entries) := by
  unfold finish
  rw [List.isEmpty_eq_false_iff.2 hne]
  exact Entries.find?_insert_self ..

theorem Reads.represents_iff (h : Reads (columnKeys members) update) (hm : member ∈ members) :
    (update.finish (given members)).Represents members member ↔ ¬Lost members member := by
  unfold Represents Lost
  cases hp : providers? member.1 member.2 with
  | some entries =>
    refine ⟨fun _ hlost => (nomatch hlost.1), fun _ entry hentry => ?_⟩
    have hgiven := mem_given hm hp hentry
    exact ⟨given members, find?_finish (List.ne_nil_of_mem hgiven), hgiven⟩
  | none =>
    have hkey : member ∈ columnKeys members := List.mem_filter.2 ⟨hm, by rw [hp]; rfl⟩
    simp only [carries_finish_iff, h.kept_iff hkey, true_and, not_or]
    exact and_comm

theorem addField_of_alone (hm : member ∈ columnKeys members)
    (h : ∃ update, ofJson (.obj [member]) = .ok update) :
    ∃ first, Update.addField [] member.1 member.2 = .ok first := by
  have hkeys : columnKeys [member] = [member] :=
    List.filter_eq_self.2 (by simpa using (List.mem_filter.1 hm).2)
  obtain ⟨update, hupdate⟩ := h
  rw [ofJson_eq, hkeys, readKeys_cons] at hupdate
  cases hadd : Update.addField [] member.1 member.2 with
  | ok first => exact ⟨first, rfl⟩
  | error e =>
    rw [hadd] at hupdate
    cases hupdate

/-- Of a document in order, the keys that are found again in what was read are
those that are not lost; and where every member is accepted alone, the document
is accepted, or refused for two keys of a column that clash. -/
theorem ofJson_represents_iff (hsorted : (Entries.keys members).Pairwise (· < ·)) :
    (∀ update, ofJson (.obj members) = .ok update →
      ∀ member ∈ members, update.Represents members member ↔ ¬Lost members member) ∧
    ((∀ member ∈ members, ∃ update, ofJson (.obj [member]) = .ok update) →
      ((∃ update, ofJson (.obj members) = .ok update) ↔
        ∀ field, ¬Clashes (columnKeys members) field) ∧
      ∀ error, ofJson (.obj members) = .error error →
        ∃ field, Clashes (columnKeys members) field ∧ error = conflict field) := by
  have horder := inOrder_columnKeys hsorted
  have hreads {update : Update} (hok : Update.readKeys [] (columnKeys members) = .ok update) :
      Reads (columnKeys members) update := reads_nil.run horder hok
  rw [ofJson_eq]
  refine ⟨fun final hfinal member hmember => ?represents, fun halone => ?refused⟩
  case represents =>
    cases hok : Update.readKeys [] (columnKeys members) with
    | error e =>
      rw [hok] at hfinal
      cases hfinal
    | ok update =>
      rw [hok] at hfinal
      cases hfinal
      exact (hreads hok).represents_iff hmember
  case refused =>
    have hfirst : ∀ member ∈ columnKeys members,
        ∃ first, Update.addField [] member.1 member.2 = .ok first := fun member hmember =>
      addField_of_alone hmember (halone member (List.mem_filter.1 hmember).1)
    have hrun : (∃ final, Update.readKeys [] (columnKeys members) = .ok final) ∨
        ∃ field, Clashes (columnKeys members) field ∧
          Update.readKeys [] (columnKeys members) = .error (conflict field) :=
      reads_nil.run_or_clashes horder hfirst
    rcases hrun with ⟨final, hok⟩ | ⟨field, hclashes, herror⟩
    · rw [hok]
      exact ⟨⟨fun _ _ => (hreads hok).not_clashes, fun _ => ⟨_, rfl⟩⟩, nofun⟩
    · rw [herror]
      refine ⟨⟨fun hok => ?_, fun hnone => absurd hclashes (hnone field)⟩, fun error hfailed => ?_⟩
      · obtain ⟨_, hok⟩ := hok
        cases hok
      · cases hfailed
        exact ⟨field, hclashes, rfl⟩

def unlinkedAccount : List Member :=
  [("_auth_data_facebook", .obj [("id", .str "1")]), ("authData", .null)]

def pathThroughValue : List Member := [("profile.a", .int 1), ("profile.a.b", .int 2)]

theorem unlinkedAccount_represents_iff :
    (Entries.keys unlinkedAccount).Pairwise (· < ·) ∧
      ∀ update, ofJson (.obj unlinkedAccount) = .ok update →
        ∀ member ∈ unlinkedAccount,
          update.Represents unlinkedAccount member ↔ ¬Lost unlinkedAccount member :=
  ⟨by decide, (ofJson_represents_iff (by decide)).1⟩

/-- Both documents are accepted, and a key of each is not found again: the
removal gives way to the provider, the value to the path. -/
theorem accepted_keys_lost :
    (∃ update, ofJson (.obj unlinkedAccount) = .ok update ∧
      ¬update.Represents unlinkedAccount ("authData", .null)) ∧
    ∃ update, ofJson (.obj pathThroughValue) = .ok update ∧
      ¬update.Represents pathThroughValue ("profile.a", .int 1) := by
  refine ⟨⟨_, rfl, fun h => ?_⟩, ⟨_, rfl, fun h => ?_⟩⟩
  · have hs : segments "authData" = ["authData"] := by decide
    cases h with
    | dotted hs' => cases hs.symm.trans hs'
    | plain hs' hc hf =>
      cases hs.symm.trans hs'
      cases hc
      cases hf
    | whole hs' hc hf =>
      cases hs.symm.trans hs'
      cases hf
  · have hs : segments "profile.a" = ["profile", "a"] := by decide
    cases h with
    | plain hs' | whole hs' => cases hs.symm.trans hs'
    | dotted hs' hf hc =>
      cases hs.symm.trans hs'
      cases hf
      cases hc with
      | increment hop | delete hop => cases hop
      | value hop hk =>
        rcases hk.there with hsame | ⟨members, others, hvalue, -⟩
        · cases hsame
        · cases hvalue

end Update
end DocSql
