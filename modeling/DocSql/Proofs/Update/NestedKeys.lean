import DocSql.Proofs.Update.ObjectKeys
import DocSql.Proofs.Update.Replacement

/-!
Updates of one key deep inside an object. The value is put at its path in a new
object, which is laid over the stored one by its top level: so the value is
there, and what stands beside it is kept under the other keys of the object but
lost under its own. Main statement: `Update.compile_nested_key`.
-/
namespace DocSql

open Sql (Assembly Expr segments)

namespace Patch

def placing (path : List String) (value : Json) : Patch where
  merge := true
  values := insertPath [] path value

section Nested

variable (stored : Entries Json) (step next : String) (rest : List String) (value : Json)

theorem find?_applied_placing (key : String) :
    Entries.find? ((placing (step :: next :: rest) value).applied stored) key =
      if step = key then some (.given (.obj (insertPath [] (next :: rest) value)))
      else (Entries.find? stored key).map .given := by
  have hvalues : (placing (step :: next :: rest) value).values =
      [(step, .obj (insertPath [] (next :: rest) value))] := rfl
  rw [find?_applied, hvalues, Entries.find?_cons, Entries.find?_nil]
  split
  · rfl
  · exact Entries.find?_mapValues Jsonb.given stored key

theorem at?_applied_placing :
    (Jsonb.object ((placing (step :: next :: rest) value).applied stored)).at?
      (step :: next :: rest) = some (.given value) := by
  have hbelow := at?_insertPath_below [] value (List.cons_ne_nil next rest) []
  rw [List.append_nil] at hbelow
  rw [Jsonb.at?_cons rfl, find?_applied_placing, if_pos rfl, Option.bind_some, Jsonb.at?_given,
    hbelow]
  rfl

/-- Beside the path, what is stored is kept just where it is under another key
of the object, or is nothing. -/
theorem at?_applied_placing_beside {path : List String} (hb : ¬step :: next :: rest <+: path)
    (ha : ¬path <+: step :: next :: rest) :
    (Jsonb.object ((placing (step :: next :: rest) value).applied stored)).at? path =
        ((Json.obj stored).at? path).map .given ↔
      (path.head? = some step → (Json.obj stored).at? path = none) := by
  cases path with
  | nil => exact absurd List.nil_prefix ha
  | cons name inner =>
    rw [Jsonb.at?_cons rfl, find?_applied_placing]
    by_cases hname : step = name
    · subst hname
      have hb' : ¬next :: rest <+: inner := fun h => hb (List.cons_prefix_cons.2 ⟨rfl, h⟩)
      have ha' : ¬inner <+: next :: rest := fun h => ha (List.cons_prefix_cons.2 ⟨rfl, h⟩)
      have hnothing : (Json.obj (insertPath [] (next :: rest) value)).at? inner = none := by
        rw [at?_insertPath_beside [] value hb' ha']
        cases inner with
        | nil => exact absurd List.nil_prefix ha'
        | cons other inner => rfl
      rw [if_pos rfl, Option.bind_some, Jsonb.at?_given, hnothing]
      simp [eq_comm]
    · have hkept : (((Entries.find? stored name).map Jsonb.given).bind fun held => held.at? inner) =
          ((Json.obj stored).at? (name :: inner)).map .given := by
        rw [Json.at?_obj_cons]
        cases Entries.find? stored name with
        | none => rfl
        | some held => exact Jsonb.at?_given held inner
      rw [if_neg hname, hkept]
      simp [Ne.symm hname]

end Nested
end Patch

namespace Update

variable {schema : Schema} {name field step next : String} {rest : List String} {value : Json}

theorem ofJson_nested_key (hp : provider? name = none)
    (hs : segments name = field :: step :: next :: rest) (hop : Change.operation? value = none) :
    ofJson (.obj [(name, value)]) =
      .ok [(field, .patch (.placing (step :: next :: rest) value))] := by
  have hadd : Patch.add { merge := true } field (step :: next :: rest) value =
      .ok (.placing (step :: next :: rest) value) := by
    unfold Patch.add
    rw [hop]
    rfl
  have hread : addField [] name value =
      .ok [(field, .patch (.placing (step :: next :: rest) value))] := by
    rw [addField_dotted hs]
    change _ <$> Patch.add { merge := true } field (step :: next :: rest) value = _
    rw [hadd]
    rfl
  simp only [ofJson, addMembers, providers?_dotted hp hs, hread]
  rfl

/-- A value for a key deep inside an object compiles to one assignment, and in
the object that it makes the value is at its path. What is stored beside the
path is kept under the other keys of the object; where it shares the first key
of the path, all of it is lost. -/
theorem compile_nested_key (hp : provider? name = none)
    (hs : segments name = field :: step :: next :: rest)
    (hf : schema.toStorage.field? field = some .object) (hop : Change.operation? value = none)
    (first : Nat) :
    ∃ e : Expr, e.IsGrouped ∧
      compile schema (.obj [(name, value)]) first =
        .ok (Sql.identifier field ++ " = " ++ Sql.number (max first 1) e.template, e.params) ∧
      ∀ stored : String → Option (Entries Json), ∃ result,
        e.value (.ofObjects stored) = some (.jsonb result) ∧
        result.at? (step :: next :: rest) = some (.given value) ∧
        ∀ path, ¬step :: next :: rest <+: path → ¬path <+: step :: next :: rest →
          (result.at? path = ((Json.obj ((stored field).getD [])).at? path).map .given ↔
            (path.head? = some step → (Json.obj ((stored field).getD [])).at? path = none)) := by
  have hexpr : Change.expr field (schema.toStorage.field? field)
      (.patch (.placing (step :: next :: rest) value)) =
        some <$> .ok (Change.patchExpr (.column field) (.placing (step :: next :: rest) value)) := by
    rw [hf]
    rfl
  refine ⟨_, Change.patchExpr_isGrouped field (.placing (step :: next :: rest) value), ?_,
    fun stored => ⟨_, Change.patchExpr_value nofun nofun, ?_, fun path hb ha => ?_⟩⟩
  · have hrun := run_setClause (assignments_single schema.toStorage hexpr) (.startingAt first)
    rw [Sql.Builder.next_startingAt] at hrun
    unfold compile
    rw [ofJson_nested_key hp hs hop]
    exact Assembly.runFrom_eq hrun
  · exact Patch.at?_applied_placing _ step next rest value
  · exact Patch.at?_applied_placing_beside _ step next rest value hb ha

/-- A latitude is put into a profile. -/
theorem latitude_placed :
    ∃ e : Expr, e.IsGrouped ∧
      compile playerSchema (.obj [("profile.geo.lat", .int 1)]) 1 =
        .ok (Sql.identifier "profile" ++ " = " ++ Sql.number (max 1 1) e.template, e.params) ∧
      ∀ stored : String → Option (Entries Json), ∃ result,
        e.value (.ofObjects stored) = some (.jsonb result) ∧
        result.at? ["geo", "lat"] = some (.given (.int 1)) ∧
        ∀ path, ¬["geo", "lat"] <+: path → ¬path <+: ["geo", "lat"] →
          (result.at? path = ((Json.obj ((stored "profile").getD [])).at? path).map .given ↔
            (path.head? = some "geo" →
              (Json.obj ((stored "profile").getD [])).at? path = none)) := by
  have hs : segments "profile.geo.lat" = ["profile", "geo", "lat"] := by decide
  exact compile_nested_key (by decide) hs rfl rfl 1

/-- The longitude that is stored beside it is lost. -/
theorem longitude_lost :
    let profile : Entries Json := [("geo", .obj [("lat", .int 0), ("lon", .int 5)])]
    ∃ e : Expr,
      compile playerSchema (.obj [("profile.geo.lat", .int 1)]) 1 =
        .ok ("\"profile\" = (COALESCE(\"profile\", '\x7b\x7d'::jsonb) || $1::jsonb)", e.params) ∧
      e.template = "(COALESCE(\"profile\", '\x7b\x7d'::jsonb) || ?::jsonb)" ∧
      ∃ result, e.value (.ofObjects fun _ => some profile) = some (.jsonb result) ∧
        (Json.obj profile).at? ["geo", "lon"] = some (.int 5) ∧ result.at? ["geo", "lon"] = none := by
  intro profile
  refine ⟨Change.patchExpr (.column "profile") (.placing ["geo", "lat"] (.int 1)), rfl, rfl, _,
    Change.patchExpr_value nofun nofun, rfl, ?_⟩
  rw [Jsonb.at?_cons rfl, Patch.find?_applied_placing, if_pos rfl]
  rfl

end Update
end DocSql
