import DocSql.Proofs.Update.ObjectKeys
import DocSql.Proofs.Update.Providers

/-!
An object that is given as a whole together with one of its keys. The keys of
the whole are laid over what is asked of the key, and it is counted up from what
is stored: so a value replaces the one of the whole, but a removal and an amount
give way to it. Main statement: `Update.compile_object_and_key`.
-/
namespace DocSql

open Sql (Expr segments)

/-- JSON in which a number is one value, whether it was written or computed. -/
def Jsonb.byValue : Jsonb → Jsonb
  | given (.num n) => number n.exact
  | held => held

namespace Change

variable {whole stored : Entries Json} {key : String} {op : Json} {held meant : Option Jsonb}

def Done (object : Entries Json) (key : String) (op : Json) (held : Option Jsonb) : Prop :=
  ∃ meant, Becomes object key (some op) meant ∧ held.map Jsonb.byValue = meant.map Jsonb.byValue

theorem done_iff (h : Becomes whole key (some op) meant) :
    Done whole key op held ↔ held.map Jsonb.byValue = meant.map Jsonb.byValue := by
  refine ⟨fun ⟨other, hother, hsame⟩ => ?_, fun hsame => ⟨meant, h, hsame⟩⟩
  rw [hsame, h.unique hother]

/-- What a key of a whole object can be asked for with effect: a value always,
but to be removed or counted up only where the whole and what is stored leave
nothing to do otherwise. -/
inductive Heeded (whole stored : Entries Json) (key : String) (op : Json) : Prop
  | value (h : operation? op = none)
  | removed (h : operation? op = some "Delete") (hn : Entries.find? whole key = none)
  | started {n : Number} (h : operation? op = some "Increment") (ha : amount op = .ok n)
    (hn : Entries.find? whole key = none) (hs : Patch.counter stored key = 0)
  | unchanged {n : Number} (h : operation? op = some "Increment") (ha : amount op = .ok n)
    (hw : Entries.find? whole key ≠ none) (hz : n.exact = 0)

theorem heeded_delete_iff (h : operation? op = some "Delete") :
    Heeded whole stored key op ↔ Entries.find? whole key = none := by
  refine ⟨fun heeded => ?_, .removed h⟩
  cases heeded with
  | value hop => cases hop.symm.trans h
  | removed _ hn => exact hn
  | started hop | unchanged hop => exact absurd (hop.symm.trans h) (by decide)

theorem heeded_increment_iff {n : Number} (h : operation? op = some "Increment")
    (ha : amount op = .ok n) : Heeded whole stored key op ↔
      if Entries.find? whole key = none then Patch.counter stored key = 0 else n.exact = 0 := by
  constructor
  · intro heeded
    cases heeded with
    | value hop => cases hop.symm.trans h
    | removed hop => exact absurd (hop.symm.trans h) (by decide)
    | started _ _ hn hs => rwa [if_pos hn]
    | unchanged _ ha' hw hz =>
      cases ha.symm.trans ha'
      rwa [if_neg hw]
  · intro hdone
    split at hdone
    next hn => exact .started h ha hn hdone
    next hw => exact .unchanged h ha hw hdone

end Change

namespace Patch

open Change (Done Heeded)

variable {whole stored : Entries Json} {key : String} {op : Json} {more : Patch}

theorem find?_applied_whole (h : Added { values := whole } op [key] more) {other : String}
    (ho : other ≠ key) :
    Entries.find? (more.applied stored) other = (Entries.find? whole other).map .given := by
  rw [find?_applied]
  cases h with
  | value =>
    change ((Entries.find? (Entries.insert whole key op) other).map _).or none = _
    rw [Entries.find?_insert_other _ _ (Ne.symm ho), Option.or_none]
  | @increment _ n =>
    have hcounted : Entries.find? (counted stored [(key, n)] []) other = none :=
      find?_counted_other fun amount hm => ho (congrArg Prod.fst (List.mem_singleton.1 hm))
    change ((Entries.find? whole other).map _).or
      (Entries.find? (counted stored [(key, n)] []) other) = _
    rw [hcounted, Option.or_none]
  | delete => exact Option.or_none

theorem done_applied_iff (h : Added { values := whole } op [key] more)
    (hw : Change.operation? op = some "Increment" → IsCounter whole key) :
    Done whole key op (Entries.find? (more.applied stored) key) ↔ Heeded whole stored key op := by
  rw [find?_applied]
  cases h with
  | value hop =>
    have hset : Entries.find? (Entries.insert whole key op) key = some op :=
      Entries.find?_insert_self whole key op
    change Done whole key op (((Entries.find? (Entries.insert whole key op) key).map _).or none) ↔ _
    rw [hset]
    exact ⟨fun _ => .value hop, fun _ => ⟨_, .set hop, rfl⟩⟩
  | @increment _ n hop ha =>
    have hcounted : Entries.find? (counted stored [(key, n)] []) key =
        some (.number (counter stored key + n.exact)) := find?_counted List.mem_cons_self
      fun other ho => congrArg Prod.snd (List.mem_singleton.1 ho)
    change Done whole key op (((Entries.find? whole key).map _).or
      (Entries.find? (counted stored [(key, n)] []) key)) ↔ _
    rw [hcounted, Change.done_iff (.counted hop ha)]
    cases hfound : Entries.find? whole key with
    | none =>
      have hnothing : counter whole key = 0 := by rw [counter, hfound]
      simp [Change.heeded_increment_iff hop ha, hfound, hnothing, Jsonb.byValue]
    | some value =>
      obtain ⟨m, rfl, -⟩ := hw hop value hfound
      have hnumber : counter whole key = m.exact := by rw [counter, hfound]
      simp [Change.heeded_increment_iff hop ha, hfound, hnumber, Jsonb.byValue]
  | delete hop =>
    change Done whole key op (((Entries.find? whole key).map _).or none) ↔ _
    rw [Option.or_none, Change.done_iff (.removed hop), Change.heeded_delete_iff hop]
    simp

theorem increments_whole (h : Added { values := whole } op [key] more) :
    ∀ entry ∈ more.increments, entry.1 = key ∧ Change.operation? op = some "Increment" ∧
      Change.amount op = .ok entry.2 := by
  intro entry hentry
  cases h with
  | value | delete => cases hentry
  | increment hop ha =>
    obtain rfl := List.mem_singleton.1 hentry
    exact ⟨rfl, hop, ha⟩

end Patch

namespace Update

variable {schema : Schema} {field key : String} {whole : Entries Json} {op : Json} {more : Patch}

theorem segments_inner (hf : Sql.isDotted field = false) (hk : Sql.isDotted key = false) :
    segments (field ++ "." ++ key) = [field, key] := by
  rw [Sql.segments_append, Sql.segments_undotted hf, Sql.segments_undotted hk]
  rfl

section Reading

variable (hf : Sql.isDotted field = false) (hp : provider? field = none)
  (hk : Sql.isDotted key = false)
include hf hp hk

theorem ofJson_whole_then_key (hn : field ≠ "authData") :
    ofJson (.obj [(field, .obj whole), (field ++ "." ++ key, op)]) =
      Change.ofJson (.obj whole) >>= fun change =>
        Update.addField [(field, change)] (field ++ "." ++ key) op := by
  have hwhole : Update.addField [] field (.obj whole) =
      (fun change => [(field, change)]) <$> Change.ofJson (.obj whole) :=
    addField_plain (Sql.segments_undotted hf) rfl
  simp only [ofJson, addMembers, providers?_plain hp hn,
    providers?_dotted (provider?_inner hp key) (segments_inner hf hk), hwhole]
  cases Change.ofJson (.obj whole) with
  | error e => rfl
  | ok change =>
    change (Update.addField [(field, change)] _ op >>= fun update => Except.ok update) =
      Update.addField [(field, change)] _ op
    cases Update.addField [(field, change)] (field ++ "." ++ key) op with
    | error e => rfl
    | ok update => rfl

theorem ofJson_object_and_key (hn : field ≠ "authData")
    (hw : Change.operation? (.obj whole) = none)
    (hmore : Patch.add { values := whole } field [key] op = .ok more) :
    ofJson (.obj [(field, .obj whole), (field ++ "." ++ key, op)]) =
      .ok [(field, .patch more)] := by
  have hset : Change.ofJson (.obj whole) = .ok (.set (.obj whole)) := by
    unfold Change.ofJson
    rw [hw]
    rfl
  have hpatch : patchOf [(field, .set (.obj whole))] field = .ok { values := whole } := by
    rw [patchOf, Entries.find?_cons, if_pos rfl]
  rw [ofJson_whole_then_key hf hp hk hn, hset]
  change Update.addField [(field, .set (.obj whole))] _ op = _
  rw [addField_dotted (segments_inner hf hk), hpatch]
  change _ <$> Patch.add { values := whole } field [key] op = _
  rw [hmore]
  simp [Entries.insert]

theorem ofJson_operation_and_key (hn : field ≠ "authData") {operation : String}
    (hw : Change.operation? (.obj whole) = some operation) :
    ∃ e, ofJson (.obj [(field, .obj whole), (field ++ "." ++ key, op)]) = .error e := by
  rw [ofJson_whole_then_key hf hp hk hn]
  cases hchange : Change.ofJson (.obj whole) with
  | error e => exact ⟨e, rfl⟩
  | ok change =>
    have hfound : Entries.find? [(field, change)] field = some change := by
      rw [Entries.find?_cons, if_pos rfl]
    change ∃ e, Update.addField [(field, change)] _ op = .error e
    rw [addField_dotted (segments_inner hf hk)]
    cases hpatch : patchOf [(field, change)] field with
    | error e => exact ⟨e, rfl⟩
    | ok keys =>
      cases patchOf_starts hpatch with
      | merging hnone => cases hnone.symm.trans hfound
      | patch hkeys =>
        cases hfound.symm.trans hkeys
        exact absurd rfl (Change.ofJson_ne_patch hchange keys)
      | whole hobject =>
        cases hfound.symm.trans hobject
        exact absurd rfl (ofJson_ne_set hw hchange _)

end Reading

theorem ofJson_providers_and_key (hk : Sql.isDotted key = false) (hop : Change.IsForKey op) :
    ofJson (.obj [("authData", .obj whole), ("authData" ++ "." ++ key, op)]) =
      ofJson (.obj [if whole.isEmpty then ("authData" ++ "." ++ key, op)
        else ("authData", .obj whole)]) := by
  have hs : segments ("authData" ++ "." ++ key) = ["authData", key] := segments_inner (by decide) hk
  obtain ⟨more, hmore⟩ := hop.add_ok { merge := true } "authData" key
  have hkey : Update.addField [] ("authData" ++ "." ++ key) op =
      .ok [("authData", .patch more)] := by
    rw [addField_dotted hs]
    change _ <$> Patch.add { merge := true } "authData" [key] op = _
    rw [hmore]
    rfl
  have hinner (entries : List (String × Option Json)) :
      addMembers [] entries [("authData" ++ "." ++ key, op)] =
        .ok (finish [("authData", .patch more)] entries) := by
    rw [addMembers, providers?_dotted (provider?_inner provider?_authData key) hs]
    change (Update.addField [] _ op >>= _) = _
    rw [hkey]
    rfl
  have hwhole (rest : List Member) : ofJson (.obj (("authData", .obj whole) :: rest)) =
      addMembers [] (whole.map fun member => (member.1, providerValue member.2)) rest := by
    simp [ofJson, addMembers, providers?, provider?_authData]
  rw [hwhole, hinner]
  cases whole with
  | nil => exact (hinner []).symm
  | cons member rest =>
    change _ = ofJson (.obj [("authData", .obj (member :: rest))])
    rw [hwhole]
    rfl

theorem compile_patch_refused {document : Json} {keys : Patch}
    (hread : ofJson document = .ok [(field, .patch keys)])
    (hf : schema.toStorage.field? field ≠ some .object) (first : Nat) :
    ∃ e, compile schema document first = .error e := by
  have hexpr : Change.expr field (schema.toStorage.field? field) (.patch keys) =
      some <$> .error (Change.unsupportedUpdate field "partial update on a non-Object field") :=
    if_neg hf
  have hassignments := assignments_single schema.toStorage hexpr
  unfold compile setClause
  rw [hread]
  change ∃ e, Sql.Assembly.runFrom first
    (setClause schema.toStorage [(field, .patch keys)]) = .error e
  unfold setClause
  rw [hassignments]
  exact ⟨_, rfl⟩

theorem compile_object_and_key_refused (hf : Sql.isDotted field = false)
    (hp : provider? field = none) (hk : Sql.isDotted key = false) (hn : field ≠ "authData")
    (hmore : Patch.add { values := whole } field [key] op = .ok more)
    (h : ¬(schema.toStorage.field? field = some .object ∧ Change.operation? (.obj whole) = none))
    (first : Nat) :
    ∃ e, compile schema (.obj [(field, .obj whole), (field ++ "." ++ key, op)]) first =
      .error e := by
  cases hplain : Change.operation? (.obj whole) with
  | some operation =>
    obtain ⟨e, hread⟩ := ofJson_operation_and_key hf hp hk hn hplain
    refine ⟨e, ?_⟩
    unfold compile
    rw [hread]
    rfl
  | none =>
    refine compile_patch_refused (ofJson_object_and_key hf hp hk hn hplain hmore) ?_ first
    exact fun hobject => h ⟨hobject, hplain⟩

theorem value_of_added (h : Patch.Added { values := whole } op [key] more)
    (hop : Change.IsForKey op) {stored : String → Option (Entries Json)}
    (hc : Change.operation? op = some "Increment" →
      Patch.IsCounter ((stored field).getD []) key) :
    (Change.patchExpr (.column field) more).value (.ofObjects stored) =
      some (.jsonb (.object (more.applied ((stored field).getD [])))) := by
  have hincrements := Patch.increments_whole h
  refine Change.patchExpr_value (fun entry hentry => ?_) fun entry hentry => ?_
  · obtain ⟨hkey, hincrement, -⟩ := hincrements entry hentry
    rw [hkey]
    exact hc hincrement
  · obtain ⟨-, hincrement, hamount⟩ := hincrements entry hentry
    exact hop.isCarried hincrement hamount

/-- An object and one of its keys are accepted where the column holds objects
and the object is no operation. They compile to an expression that makes a new
object of the given one, in which all other keys are as given; what is asked of
the key is done to it just where that is heeded. The providers, whose column has
no such keys, lose either the key or the object. -/
theorem compile_object_and_key (hf : Sql.isDotted field = false) (hp : provider? field = none)
    (hk : Sql.isDotted key = false) (hop : Change.IsForKey op) (first : Nat) :
    let document := Json.obj [(field, .obj whole), (field ++ "." ++ key, op)]
    (field ≠ "authData" →
      ((∃ made, compile schema document first = .ok made) ↔
        schema.toStorage.field? field = some .object ∧ Change.operation? (.obj whole) = none) ∧
      ∀ text params, compile schema document first = .ok (text, params) →
        ∃ e : Expr, assigned schema document = .ok [⟨field, e⟩] ∧ e.IsGrouped ∧
          text = Sql.identifier field ++ " = " ++ e.textFrom (max first 1) ∧
          ∀ stored : String → Option (Entries Json),
            (Change.operation? op = some "Increment" →
              Patch.IsCounter ((stored field).getD []) key ∧ Patch.IsCounter whole key) →
            ∃ result, e.valueFrom (.ofObjects stored) (Expr.boundFrom (max first 1) params)
                (max first 1) = some (.jsonb (.object result)) ∧
              (∀ other, other ≠ key →
                Entries.find? result other = (Entries.find? whole other).map .given) ∧
              (Change.Done whole key op (Entries.find? result key) ↔
                Change.Heeded whole ((stored field).getD []) key op)) ∧
    (field = "authData" →
      compile schema document first =
        compile schema (.obj [if whole.isEmpty then (field ++ "." ++ key, op)
          else (field, .obj whole)]) first) := by
  intro document
  refine ⟨fun hn => ?_, fun hn => ?_⟩
  · obtain ⟨more, hmore⟩ := hop.add_ok { values := whole } field key
    have hadded := Patch.added hmore
    by_cases haccepted : schema.toStorage.field? field = some .object ∧
        Change.operation? (.obj whole) = none
    · have hread := ofJson_object_and_key hf hp hk hn haccepted.2 hmore
      have hexpr : Change.expr field (schema.toStorage.field? field) (.patch more) =
          .ok (some (Change.patchExpr (.column field) more)) := if_pos haccepted.1
      obtain ⟨hassigned, hcompile⟩ := compile_single hread hexpr first
      rw [hcompile]
      refine ⟨⟨fun _ => haccepted, fun _ => ⟨_, rfl⟩⟩, fun text params hmade => ?_⟩
      cases hmade
      refine ⟨_, hassigned, Change.patchExpr_isGrouped field more, rfl, fun stored hcounters =>
        ⟨more.applied ((stored field).getD []), ?_, fun other => Patch.find?_applied_whole hadded,
          Patch.done_applied_iff hadded fun h => (hcounters h).2⟩⟩
      rw [Expr.valueFrom_params]
      exact value_of_added hadded hop fun h => (hcounters h).1
    · obtain ⟨e, hrefused⟩ := compile_object_and_key_refused hf hp hk hn hmore haccepted first
      rw [hrefused]
      exact ⟨⟨nofun, fun h => absurd h haccepted⟩, nofun⟩
  · subst hn
    unfold compile
    rw [ofJson_providers_and_key hk hop]

/-- A city that is given with its profile and by a key of its own is the one of the key. -/
theorem city_of_key :
    let whole : Entries Json := [("city", .str "Paris"), ("zip", .str "75001")]
    (Sql.isDotted "profile" = false ∧ provider? "profile" = none ∧ Sql.isDotted "city" = false ∧
      Change.IsForKey (.str "Lyon")) ∧
    ∃ text params e, compile playerSchema
        (.obj [("profile", .obj whole), ("profile.city", .str "Lyon")]) 1 = .ok (text, params) ∧
      text = Sql.identifier "profile" ++ " = " ++ Expr.textFrom 1 e ∧
      ∀ stored : String → Option (Entries Json), ∃ result,
        e.valueFrom (.ofObjects stored) (Expr.boundFrom 1 params) 1 =
          some (.jsonb (.object result)) ∧
        Entries.find? result "zip" = some (.given (.str "75001")) ∧
        Change.Done whole "city" (.str "Lyon") (Entries.find? result "city") := by
  intro whole
  have hop : Change.IsForKey (.str "Lyon") := .value rfl
  obtain ⟨haccepted, hmeant⟩ := (@compile_object_and_key playerSchema "profile" "city" whole
    (.str "Lyon") (by decide) (by decide) (by decide) hop 1).1 (by decide)
  obtain ⟨⟨text, params⟩, hcompile⟩ := haccepted.2 ⟨rfl, rfl⟩
  obtain ⟨e, -, -, htext, hvalue⟩ := hmeant text params hcompile
  refine ⟨⟨by decide, by decide, by decide, hop⟩, text, params, e, hcompile, htext,
    fun stored => ?_⟩
  obtain ⟨result, hresult, hothers, hdone⟩ := hvalue stored nofun
  exact ⟨result, hresult, hothers "zip" (by decide), hdone.2 (.value rfl)⟩

/-- A city that is given with its profile and taken away by a key of its own stays. -/
theorem removed_city_stays :
    let paris : Entries Json := [("city", .str "Paris")]
    let removal : Json := .obj [("__op", .str "Delete")]
    let document : Json := .obj [("profile", .obj paris), ("profile.city", removal)]
    ∃ params e, compile playerSchema document 1 =
        .ok ("\"profile\" = ('\x7b\x7d'::jsonb - $1::text || $2::jsonb)", params) ∧
      assigned playerSchema document = .ok [⟨"profile", e⟩] ∧
      ∀ stored : String → Option (Entries Json), ∃ result,
        e.valueFrom (.ofObjects stored) (Expr.boundFrom 1 params) 1 =
          some (.jsonb (.object result)) ∧
        ¬Change.Done paris "city" removal (Entries.find? result "city") := by
  intro paris removal document
  let keys : Patch := { deletes := ["city"], values := paris }
  have hadded : Patch.Added { values := paris } removal ["city"] keys := .delete rfl
  have hread : ofJson document = .ok [("profile", .patch keys)] := rfl
  obtain ⟨hassigned, hcompile⟩ : assigned playerSchema document = _ ∧
      compile playerSchema document 1 = _ := compile_single hread rfl 1
  have htext : Sql.identifier "profile" ++ " = " ++
      Expr.textFrom (max 1 1) (Change.patchExpr (.column "profile") keys) =
        "\"profile\" = ('\x7b\x7d'::jsonb - $1::text || $2::jsonb)" := by decide
  rw [htext] at hcompile
  refine ⟨_, _, hcompile, hassigned, fun stored =>
    ⟨keys.applied ((stored "profile").getD []), ?_, fun hdone => ?_⟩⟩
  · rw [Expr.valueFrom_params]
    exact Change.patchExpr_value nofun nofun
  · have hheeded := (Patch.done_applied_iff hadded fun h => absurd h (by decide)).1 hdone
    have hfound : Entries.find? paris "city" = some (.str "Paris") := rfl
    cases hfound.symm.trans ((Change.heeded_delete_iff rfl).1 hheeded)

end Update
end DocSql
