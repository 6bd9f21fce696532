import DocSql.Proofs.Update.Assignments
import DocSql.Proofs.Update.Patches
import DocSql.Proofs.Update.Reading

/-!
Updates of keys that stand directly in objects. A document of such keys is read
into one patch for each object, in which every key is a value, an amount or a
removal, as it was asked for; and the expressions that it compiles to give each
key what was asked and leave all others alone. Main statement:
`Update.compile_object_keys`.
-/
namespace DocSql

open Sql (Assembly Expr Valuation segments)

/-- What becomes of a key of a stored object when this is asked of it. -/
inductive Change.Becomes (stored : Entries Json) (key : String) : Option Json → Option Jsonb → Prop
  | kept : Becomes stored key none ((Entries.find? stored key).map .given)
  | set {value : Json} (h : operation? value = none) :
    Becomes stored key (some value) (some (.given value))
  | counted {value : Json} {n : Number} (h : operation? value = some "Increment")
    (ha : amount value = .ok n) :
    Becomes stored key (some value) (some (.number (Patch.counter stored key + n.exact)))
  | removed {value : Json} (h : operation? value = some "Delete") :
    Becomes stored key (some value) none

theorem Change.Becomes.unique {stored : Entries Json} {key : String} {asked : Option Json}
    {held other : Option Jsonb} (h : Becomes stored key asked held)
    (ho : Becomes stored key asked other) : held = other := by
  cases h with
  | kept =>
    cases ho with
    | kept => rfl
  | set hop =>
    cases ho with
    | set => rfl
    | counted hop' | removed hop' => cases hop.symm.trans hop'
  | counted hop ha =>
    cases ho with
    | set hop' => cases hop.symm.trans hop'
    | removed hop' => exact absurd (hop.symm.trans hop') (by decide)
    | counted _ ha' =>
      cases ha.symm.trans ha'
      rfl
  | removed hop =>
    cases ho with
    | removed => rfl
    | set hop' => cases hop.symm.trans hop'
    | counted hop' => exact absurd (hop.symm.trans hop') (by decide)

/-- What can be asked of a key of an object: a value, to be counted up by a
number that a parameter carries, or to be removed. -/
inductive Change.IsForKey : Json → Prop
  | value {value : Json} (h : operation? value = none) : IsForKey value
  | increment {value : Json} {n : Number} (h : operation? value = some "Increment")
    (ha : amount value = .ok n) (hn : n.IsCarried) : IsForKey value
  | delete {value : Json} (h : operation? value = some "Delete") : IsForKey value

theorem Change.IsForKey.add_ok {value : Json} (h : IsForKey value) (keys : Patch)
    (field key : String) : ∃ more, keys.add field [key] value = .ok more := by
  unfold Patch.add
  cases h with
  | value hop | delete hop =>
    rw [hop]
    exact ⟨_, rfl⟩
  | increment hop ha =>
    rw [hop]
    change ∃ more, (amount value >>= fun n => _) = _
    rw [ha]
    exact ⟨_, rfl⟩

theorem Change.IsForKey.isCarried {value : Json} {n : Number} (h : IsForKey value)
    (hop : operation? value = some "Increment") (ha : amount value = .ok n) : n.IsCarried := by
  cases h with
  | value hop' | delete hop' => exact absurd (hop.symm.trans hop') (by decide)
  | increment _ ha' hn =>
    cases ha.symm.trans ha'
    exact hn

namespace Patch

/-- The patch has what is asked of every key, and nothing else. -/
structure Collects (keys : Patch) (asked : String → Option Json) : Prop where
  merge : keys.merge
  values : ∀ key, Entries.find? keys.values key =
    (asked key).filter fun value => (Change.operation? value).isNone
  increments : ∀ key n, (key, n) ∈ keys.increments ↔ ∃ value, asked key = some value ∧
    Change.operation? value = some "Increment" ∧ Change.amount value = .ok n
  deletes : ∀ key, key ∈ keys.deletes ↔
    ∃ value, asked key = some value ∧ Change.operation? value = some "Delete"

theorem Collects.nothing : Collects { merge := true } fun _ => none where
  merge := rfl
  values _ := rfl
  increments _ _ := by simp
  deletes _ := by simp

namespace Collects

variable {keys more : Patch} {asked : String → Option Json} {key : String} {value : Json}

theorem exists_asked (hn : asked key = none) (name : String) (p : Json → Prop) :
    (∃ v, (if name = key then some value else asked name) = some v ∧ p v) ↔
      (∃ v, asked name = some v ∧ p v) ∨ name = key ∧ p value := by
  by_cases hname : name = key
  · simp [hname, hn]
  · simp [hname]

theorem add (h : keys.Collects asked) (hn : asked key = none) (ha : Added keys value [key] more) :
    more.Collects fun name => if name = key then some value else asked name where
  merge := ha.merge.trans h.merge
  values name := by
    have hold := h.values name
    cases ha with
    | value hop =>
      change Entries.find? (Entries.insert keys.values key value) name = _
      rw [Entries.find?_insert, hold]
      by_cases hname : name = key
      · simp [hname, hop, Option.filter_some]
      · simp [hname, Ne.symm hname]
    | increment hop _ | delete hop =>
      refine hold.trans ?_
      by_cases hname : name = key
      · simp [hname, hn, hop, Option.filter_some]
      · simp [hname]
  increments name n := by
    rw [exists_asked hn, ← h.increments]
    cases ha with
    | value hop | delete hop => simp [hop]
    | @increment _ amount hop hamount =>
      change (name, n) ∈ keys.increments ++ [(key, amount)] ↔ _
      simp [hop, hamount, eq_comm]
  deletes name := by
    rw [exists_asked hn, ← h.deletes]
    cases ha with
    | value hop | increment hop _ => simp [hop]
    | delete hop =>
      change name ∈ keys.deletes ++ [key] ↔ _
      simp [hop]

theorem becomes (h : keys.Collects asked)
    (hk : ∀ value, asked key = some value → Change.IsForKey value) (stored : Entries Json) :
    Change.Becomes stored key (asked key) (Entries.find? (keys.applied stored) key) := by
  have hvalues := h.values key
  rw [find?_applied, h.merge, if_pos rfl]
  cases hasked : asked key with
  | none =>
    rw [hasked] at hvalues
    have hincrements (n : Number) : (key, n) ∉ keys.increments := by
      simp [h.increments, hasked]
    have hdeletes : key ∉ keys.deletes := by
      simp [h.deletes, hasked]
    rw [hvalues, find?_counted_other hincrements, Entries.find?_foldl_erase, if_neg hdeletes,
      Entries.find?_mapValues]
    exact .kept
  | some value =>
    rw [hasked] at hvalues
    cases hk value hasked with
    | value hop =>
      have hvalue : Entries.find? keys.values key = some value := by
        rw [hvalues, Option.filter_some, if_pos (by rw [hop]; rfl)]
      rw [hvalue]
      exact .set hop
    | @increment n hop ha =>
      have hnone : Entries.find? keys.values key = none := by
        rw [hvalues, Option.filter_some, if_neg (by rw [hop]; exact Bool.false_ne_true)]
      have hm : (key, n) ∈ keys.increments := (h.increments key n).2 ⟨value, hasked, hop, ha⟩
      have hall (other : Number) (ho : (key, other) ∈ keys.increments) : other = n := by
        obtain ⟨_, hsame, -, hother⟩ := (h.increments key other).1 ho
        cases hasked.symm.trans hsame
        exact Except.ok.inj (hother.symm.trans ha)
      rw [hnone, find?_counted hm hall]
      exact .counted hop ha
    | delete hop =>
      have hnone : Entries.find? keys.values key = none := by
        rw [hvalues, Option.filter_some, if_neg (by rw [hop]; exact Bool.false_ne_true)]
      have hincrements (n : Number) : (key, n) ∉ keys.increments := by
        simp [h.increments, hasked, hop]
      have hdeletes : key ∈ keys.deletes := (h.deletes key).2 ⟨value, hasked, hop⟩
      rw [hnone, find?_counted_other hincrements, Entries.find?_foldl_erase, if_pos hdeletes]
      exact .removed hop

theorem carried (h : keys.Collects asked)
    (hk : ∀ name value, asked name = some value → Change.IsForKey value) :
    ∀ entry ∈ keys.increments, entry.2.IsCarried := by
  rintro ⟨name, n⟩ hm
  obtain ⟨value, hasked, hop, ha⟩ := (h.increments name n).1 hm
  exact (hk name value hasked).isCarried hop ha

end Collects
end Patch

namespace Update

/-- A key directly in an object of the stored schema, with something that can
be asked of it. Keys of providers are no keys of objects, whatever the schema says. -/
structure IsObjectKey (schema : Schema) (member : Member) : Prop where
  noProvider : provider? member.1 = none
  within : ∃ field key, segments member.1 = [field, key] ∧
    schema.toStorage.field? field = some .object
  forKey : Change.IsForKey member.2

def asked (doc : List Member) (field key : String) : Option Json :=
  Entries.find? doc (field ++ "." ++ key)

variable {done doc : List Member} {update next : Update} {name field key : String} {value : Json}

theorem asked_append_self (hs : segments name = [field, key]) (hn : Entries.find? done name = none) :
    asked (done ++ [(name, value)]) field =
      fun other => if other = key then some value else asked done field other := by
  obtain rfl := Sql.eq_of_segments_pair hs
  funext other
  unfold asked
  rw [Entries.find?_append, Entries.find?_cons, Entries.find?_nil]
  by_cases hother : other = key
  · subst hother
    rw [hn, if_pos rfl, if_pos rfl, Option.none_or]
  · have hne : field ++ "." ++ key ≠ field ++ "." ++ other := fun hsame =>
      hother (Sql.eq_and_eq_of_segments_pair (hsame ▸ hs)).2
    rw [if_neg hne, if_neg hother, Option.or_none]

theorem asked_append_other {other : String} (hs : segments name = [field, key])
    (ho : other ≠ field) : asked (done ++ [(name, value)]) other = asked done other := by
  obtain rfl := Sql.eq_of_segments_pair hs
  funext inner
  have hne : field ++ "." ++ key ≠ other ++ "." ++ inner := fun hsame =>
    ho (Sql.eq_and_eq_of_segments_pair (hsame ▸ hs)).1
  unfold asked
  rw [Entries.find?_append, Entries.find?_cons, if_neg hne, Entries.find?_nil, Option.or_none]

/-- What has been read: a patch for each object that has keys in the document,
which collects what is asked of them. -/
structure Gathers (done : List Member) (update : Update) : Prop where
  sorted : (Entries.keys update).Pairwise (· < ·)
  patches : ∀ field change, Entries.find? update field = some change →
    ∃ keys, change = .patch keys ∧ keys.Collects (asked done field)
  named : ∀ field, (Entries.find? update field).isSome ↔
    ∃ member ∈ done, ∃ key, segments member.1 = [field, key]
  pairs : ∀ member ∈ done, ∃ field key, segments member.1 = [field, key]

namespace Gathers

theorem nil : Gathers [] [] where
  sorted := .nil
  patches _ _ h := by cases h
  named _ := by simp
  pairs _ h := absurd h List.not_mem_nil

theorem patchOf (h : Gathers done update) (field : String) :
    ∃ keys, Update.patchOf update field = .ok keys ∧ keys.Collects (asked done field) := by
  unfold Update.patchOf
  cases hfound : Entries.find? update field with
  | some change =>
    obtain ⟨keys, rfl, hkeys⟩ := h.patches field change hfound
    exact ⟨keys, rfl, hkeys⟩
  | none =>
    have hnone : asked done field = fun _ => none := by
      funext other
      cases hother : asked done field other with
      | none => rfl
      | some value =>
        have hm := Entries.mem_of_find? hother
        obtain ⟨found, inner, hsegments⟩ := h.pairs _ hm
        obtain ⟨rfl, -⟩ := Sql.eq_and_eq_of_segments_pair hsegments
        have hsome := (h.named field).2 ⟨_, hm, inner, hsegments⟩
        rw [hfound] at hsome
        cases hsome
    refine ⟨{ merge := true }, rfl, ?_⟩
    rw [hnone]
    exact .nothing

theorem addField (h : Gathers done update) (hs : segments name = [field, key])
    (hv : Change.IsForKey value) (hn : Entries.find? done name = none) :
    ∃ next, update.addField name value = .ok next ∧ Gathers (done ++ [(name, value)]) next := by
  obtain ⟨keys, hpatch, hkeys⟩ := h.patchOf field
  obtain ⟨more, hmore⟩ := hv.add_ok keys field key
  have hnew : asked done field key = none := by
    rw [asked, ← Sql.eq_of_segments_pair hs, hn]
  have hcollects : more.Collects (asked (done ++ [(name, value)]) field) := by
    rw [asked_append_self hs hn]
    exact hkeys.add hnew (Patch.added hmore)
  refine ⟨Entries.insert update field (.patch more), ?_, ?_⟩
  · rw [addField_dotted hs, hpatch]
    change _ <$> keys.add field [key] value = _
    rw [hmore]
    rfl
  · refine ⟨Entries.insert_sorted field _ h.sorted, fun other change hother => ?_, fun other => ?_, ?_⟩
    · rw [Entries.find?_insert] at hother
      by_cases hsame : field = other
      · subst hsame
        rw [if_pos rfl] at hother
        exact ⟨more, (Option.some.inj hother).symm, hcollects⟩
      · rw [if_neg hsame] at hother
        rw [asked_append_other hs (Ne.symm hsame)]
        exact h.patches other change hother
    · rw [Entries.find?_insert]
      by_cases hsame : field = other
      · subst hsame
        rw [if_pos rfl]
        exact ⟨fun _ => ⟨(name, value), List.mem_append_right _ List.mem_cons_self, key, hs⟩,
          fun _ => rfl⟩
      · rw [if_neg hsame, h.named other]
        constructor
        · rintro ⟨member, hm, inner, hsegments⟩
          exact ⟨member, List.mem_append_left _ hm, inner, hsegments⟩
        · rintro ⟨member, hm, inner, hsegments⟩
          rcases List.mem_append.1 hm with hdone | hlast
          · exact ⟨member, hdone, inner, hsegments⟩
          · rw [List.mem_singleton.1 hlast] at hsegments
            exact absurd (List.cons.inj (hs.symm.trans hsegments)).1 hsame
    · intro member hm
      rcases List.mem_append.1 hm with hdone | hlast
      · exact h.pairs member hdone
      · rw [List.mem_singleton.1 hlast]
        exact ⟨field, key, hs⟩

theorem run {schema : Schema} (h : Gathers done update)
    (hsorted : (Entries.keys (done ++ doc)).Pairwise (· < ·))
    (hkeys : ∀ member ∈ doc, IsObjectKey schema member) :
    ∃ final, update.readKeys doc = .ok final ∧ Gathers (done ++ doc) final := by
  induction doc generalizing done update with
  | nil => exact ⟨update, rfl, by rwa [List.append_nil]⟩
  | cons member rest ih =>
    obtain ⟨name, value⟩ := member
    have hmember := hkeys (name, value) List.mem_cons_self
    obtain ⟨field, key, hs, -⟩ := hmember.within
    have hn : Entries.find? done name = none := by
      cases hfound : Entries.find? done name with
      | none => rfl
      | some held =>
        rw [Entries.keys, List.map_append, List.pairwise_append] at hsorted
        have hlt := hsorted.2.2 name (List.mem_map_of_mem (Entries.mem_of_find? hfound)) name
          List.mem_cons_self
        exact absurd hlt (String.lt_irrefl name)
    obtain ⟨next, hadd, hnext⟩ := h.addField hs hmember.forKey hn
    obtain ⟨final, hread, hfinal⟩ := ih hnext (by rwa [← List.append_cons])
      fun other ho => hkeys other (List.mem_cons_of_mem _ ho)
    rw [readKeys_cons, hadd]
    exact ⟨final, hread, by rwa [List.append_cons]⟩

end Gathers

variable {schema : Schema} {members : List Member}

theorem IsObjectKey.providers?_eq {member : Member} (h : IsObjectKey schema member) :
    providers? member.1 member.2 = none := by
  obtain ⟨field, key, hs, -⟩ := h.within
  exact providers?_dotted h.noProvider hs

theorem ofJson_object_keys (hsorted : (Entries.keys members).Pairwise (· < ·))
    (hkeys : ∀ member ∈ members, IsObjectKey schema member) :
    ∃ update, ofJson (.obj members) = .ok update ∧ Gathers members update := by
  have hcolumns : columnKeys members = members := List.filter_eq_self.2 fun member hm => by
    rw [(hkeys member hm).providers?_eq]
    rfl
  have hgiven : given members = [] := by
    have hnone : members.filterMap (fun member => providers? member.1 member.2) = [] :=
      List.filterMap_eq_nil_iff.2 fun member hm => (hkeys member hm).providers?_eq
    rw [given, hnone]
    rfl
  obtain ⟨update, hread, hgathers⟩ : ∃ update, Update.readKeys [] members = .ok update ∧
      Gathers members update := Gathers.nil.run hsorted hkeys
  refine ⟨update, ?_, hgathers⟩
  rw [ofJson_eq, hcolumns, hgiven, hread]
  rfl

theorem assignments_patches {storage : Schema} {update : Update}
    (h : ∀ entry ∈ update, (∃ keys, entry.2 = .patch keys) ∧
      storage.field? entry.1 = some .object) :
    ∃ all, assignments storage update = .ok all ∧
      all.map Assignment.column = Entries.keys update ∧
      ∀ a ∈ all, ∃ keys, (a.column, .patch keys) ∈ update ∧
        a.value = Change.patchExpr (.column a.column) keys := by
  unfold assignments
  induction update with
  | nil => exact ⟨[], rfl, rfl, nofun⟩
  | cons entry rest ih =>
    obtain ⟨name, change⟩ := entry
    obtain ⟨⟨keys, hkeys⟩, hobject⟩ := h (name, change) List.mem_cons_self
    change change = .patch keys at hkeys
    subst hkeys
    obtain ⟨others, hothers, hcolumns, hall⟩ := ih fun other ho => h other (List.mem_cons_of_mem _ ho)
    obtain ⟨found, hfound, hfilter⟩ := bind_eq_ok.1 hothers
    have hexpr : Change.expr name (storage.field? name) (.patch keys) =
        .ok (some (Change.patchExpr (.column name) keys)) := by
      rw [hobject]
      rfl
    refine ⟨⟨name, Change.patchExpr (.column name) keys⟩ :: others, ?_, ?_, fun a ha => ?_⟩
    · rw [List.mapM_cons]
      dsimp only
      rw [hexpr, hfound]
      cases hfilter
      rfl
    · exact congrArg (name :: ·) hcolumns
    · rcases List.mem_cons.1 ha with rfl | hlater
      · exact ⟨keys, List.mem_cons_self, rfl⟩
      · obtain ⟨others, hmem, hvalue⟩ := hall a hlater
        exact ⟨others, List.mem_cons_of_mem _ hmem, hvalue⟩

theorem Gathers.mem_keys_iff (h : Gathers members update) (field : String) :
    field ∈ Entries.keys update ↔
      ∃ member ∈ members, ∃ key, segments member.1 = [field, key] := by
  rw [← h.named field]
  constructor
  · intro hmem
    obtain ⟨⟨_, change⟩, hentry, rfl⟩ := List.mem_map.1 hmem
    rw [Entries.find?_of_mem h.sorted hentry]
    rfl
  · exact Entries.mem_keys_of_contains

/-- The compiled assignments of keys of objects: one for each object, which does
what is asked of every key of the object that is stored, and its text groups as
it is meant. Keys that are counted up may only hold numbers. -/
theorem compile_object_keys (hsorted : (Entries.keys members).Pairwise (· < ·))
    (hne : members ≠ []) (hkeys : ∀ member ∈ members, IsObjectKey schema member) (first : Nat) :
    ∃ all : List Assignment,
      compile schema (.obj members) first =
        .ok (Sql.number (max first 1) (String.intercalate ", " (all.map Assignment.template)),
          all.flatMap fun a => a.value.params) ∧
      (all.map Assignment.column).Pairwise (· < ·) ∧
      (∀ field, field ∈ all.map Assignment.column ↔
        ∃ member ∈ members, ∃ key, segments member.1 = [field, key]) ∧
      ∀ a ∈ all, a.value.IsGrouped ∧ ∀ stored : String → Option (Entries Json),
        (∀ key value, asked members a.column key = some value →
          Change.operation? value = some "Increment" →
            Patch.IsCounter ((stored a.column).getD []) key) →
        ∃ result, a.value.value (.ofObjects stored) = some (.jsonb (.object result)) ∧
          ∀ key, Change.Becomes ((stored a.column).getD []) key (asked members a.column key)
            (Entries.find? result key) := by
  obtain ⟨update, hread, hgathers⟩ := ofJson_object_keys hsorted hkeys
  have hpatches : ∀ entry ∈ update, (∃ keys, entry.2 = .patch keys) ∧
      schema.toStorage.field? entry.1 = some .object := by
    rintro ⟨field, change⟩ hentry
    have hfound := Entries.find?_of_mem hgathers.sorted hentry
    obtain ⟨keys, rfl, -⟩ := hgathers.patches field change hfound
    obtain ⟨member, hm, key, hs⟩ := (hgathers.named field).1 (by rw [hfound]; rfl)
    obtain ⟨other, inner, hother, hobject⟩ := (hkeys member hm).within
    cases hs.symm.trans hother
    exact ⟨⟨keys, rfl⟩, hobject⟩
  obtain ⟨all, hassignments, hcolumns, hall⟩ := assignments_patches hpatches
  have hall_ne : all ≠ [] := by
    rintro rfl
    obtain ⟨member, hm⟩ := List.exists_mem_of_ne_nil members hne
    obtain ⟨field, key, hs⟩ := hgathers.pairs member hm
    have hfield := (hgathers.mem_keys_iff field).2 ⟨member, hm, key, hs⟩
    rw [← hcolumns] at hfield
    exact absurd hfield List.not_mem_nil
  refine ⟨all, ?_, hcolumns ▸ hgathers.sorted, hcolumns ▸ hgathers.mem_keys_iff, fun a ha => ?_⟩
  · have hrun := run_assignments hassignments hall_ne (.startingAt first)
    rw [Sql.Builder.next_startingAt] at hrun
    unfold compile
    rw [hread]
    exact Assembly.runFrom_eq hrun
  · obtain ⟨keys, hmem, hvalue⟩ := hall a ha
    obtain ⟨_, hsame, hcollects⟩ :=
      hgathers.patches _ _ (Entries.find?_of_mem hgathers.sorted hmem)
    cases hsame
    have hforKey : ∀ key value, asked members a.column key = some value → Change.IsForKey value :=
      fun key value hasked => (hkeys _ (Entries.mem_of_find? hasked)).forKey
    rw [hvalue]
    refine ⟨Change.patchExpr_isGrouped a.column keys, fun stored hcounters =>
      ⟨keys.applied ((stored a.column).getD []), ?_, fun key => ?_⟩⟩
    · refine Change.patchExpr_value (fun entry hentry => ?_) (hcollects.carried hforKey)
      obtain ⟨value, hasked, hop, -⟩ := (hcollects.increments entry.1 entry.2).1 hentry
      exact hcounters entry.1 value hasked hop
    · exact hcollects.becomes (hforKey key) _

def playerSchema : Schema where
  className := "Player"
  fields := [("profile", .object), ("stats", .object)]

def birthday : List Member :=
  [("profile.age", .obj [("__op", .str "Increment"), ("amount", .int 1)]),
   ("profile.city", .str "Paris"), ("profile.draft", .obj [("__op", .str "Delete")]),
   ("stats.wins", .obj [("__op", .str "Increment"), ("amount", .int 1)])]

theorem birthday_isObjectKey : ∀ member ∈ birthday, IsObjectKey playerSchema member := by
  have hprofile : playerSchema.toStorage.field? "profile" = some .object := rfl
  have hstats : playerSchema.toStorage.field? "stats" = some .object := rfl
  simp only [birthday, List.forall_mem_cons]
  refine ⟨⟨rfl, ⟨"profile", "age", by decide, hprofile⟩, .increment (n := .int 1) rfl rfl rfl⟩,
    ⟨rfl, ⟨"profile", "city", by decide, hprofile⟩, .value rfl⟩,
    ⟨rfl, ⟨"profile", "draft", by decide, hprofile⟩, .delete rfl⟩,
    ⟨rfl, ⟨"stats", "wins", by decide, hstats⟩, .increment (n := .int 1) rfl rfl rfl⟩, nofun⟩

/-- The profile gets a year and a city, loses its draft and keeps its name. -/
theorem birthday_profile :
    let profile : Entries Json := [("age", .int 41), ("draft", .bool true), ("name", .str "Ann")]
    let stored : String → Option (Entries Json) := fun name =>
      if name = "profile" then some profile else none
    ∃ all : List Assignment,
      compile playerSchema (.obj birthday) 1 =
        .ok (Sql.number 1 (String.intercalate ", " (all.map Assignment.template)),
          all.flatMap fun a => a.value.params) ∧
      ∃ a ∈ all, a.column = "profile" ∧ ∃ result,
        a.value.value (.ofObjects stored) = some (.jsonb (.object result)) ∧
          Entries.find? result "age" = some (.number 42) ∧
          Entries.find? result "city" = some (.given (.str "Paris")) ∧
          Entries.find? result "draft" = none ∧
          Entries.find? result "name" = some (.given (.str "Ann")) := by
  intro profile stored
  obtain ⟨all, hcompile, -, hcolumns, hvalues⟩ :=
    compile_object_keys (by decide) (by decide) birthday_isObjectKey 1
  obtain ⟨a, ha, hcolumn⟩ := List.mem_map.1 ((hcolumns "profile").2
    ⟨_, List.mem_cons_self, "age", by decide⟩)
  have hcounters : ∀ key value, asked birthday a.column key = some value →
      Change.operation? value = some "Increment" →
        Patch.IsCounter ((stored a.column).getD []) key := by
    rw [hcolumn]
    intro key value hasked hop held hheld
    have hmember := Entries.mem_of_find? hasked
    simp only [birthday, List.mem_cons, Prod.mk.injEq, List.not_mem_nil, or_false] at hmember
    rcases hmember with ⟨hname, -⟩ | ⟨-, rfl⟩ | ⟨-, rfl⟩ | ⟨hname, -⟩
    · have hsegments : segments ("profile" ++ "." ++ key) = ["profile", "age"] := by
        rw [hname]
        decide
      obtain ⟨-, rfl⟩ := Sql.eq_and_eq_of_segments_pair hsegments
      cases hheld
      exact ⟨.int 41, rfl, trivial⟩
    · cases hop
    · exact absurd hop (by decide)
    · have hsegments : segments ("profile" ++ "." ++ key) = ["stats", "wins"] := by
        rw [hname]
        decide
      exact absurd (Sql.eq_and_eq_of_segments_pair hsegments).1 (by decide)
  obtain ⟨-, hresult⟩ := hvalues a ha
  obtain ⟨result, hvalue, hbecomes⟩ := hresult stored hcounters
  rw [hcolumn] at hbecomes
  have hage := (hbecomes "age").unique (.counted rfl rfl)
  refine ⟨all, hcompile, a, ha, hcolumn, result, hvalue, hage.trans ?_, ?_, ?_, ?_⟩
  · change some (Jsonb.number ((41 : ℤ) + (1 : ℤ))) = _
    norm_num
  · exact (hbecomes "city").unique (.set rfl)
  · exact (hbecomes "draft").unique (.removed rfl)
  · exact (hbecomes "name").unique .kept

/-- Two declared objects whose keys change nothing in them: a key of a provider
is one of `authData` whatever field it names, and permissions are lists of texts
whatever they are declared to be. -/
theorem declared_objects_without_keys :
    let linked : Schema := { className := "Player", fields := [("_auth_data_facebook", .object)] }
    let guarded : Schema := { className := "Player", fields := [("_rperm", .object)] }
    (linked.field? "_auth_data_facebook" = some .object ∧
      segments "_auth_data_facebook.id" = ["_auth_data_facebook", "id"] ∧
      compile linked (.obj [("_auth_data_facebook.id", .int 1)]) 1 =
        .ok ("\"authData\" = json_object_set_key(COALESCE(\"authData\", " ++
          "'\x7b\x7d'::jsonb), $1::text, $2::jsonb)::jsonb",
          [.text "facebook.id", .json (.int 1)])) ∧
    guarded.field? "_rperm" = some .object ∧ segments "_rperm.a" = ["_rperm", "a"] ∧
      compile guarded (.obj [("_rperm.a", .int 1)]) 1 =
        .error (Change.unsupportedUpdate "_rperm" "partial update on a non-Object field") := by
  refine ⟨⟨rfl, by decide, ?_⟩, rfl, by decide, ?_⟩
  · rfl
  · rfl

end Update
end DocSql
