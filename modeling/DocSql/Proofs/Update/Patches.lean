import DocSql.Proofs.Sql.JsonObjects
import DocSql.Update.Assignment

/-!
What the expression of a patch makes of the stored object: keys are removed,
then numbers are counted up from what is stored, then values are laid over it.
Only the top level of the object takes part in this, so what is laid over a key
is all that is left under it. Main statement: `Change.patchExpr_value`.
-/
namespace DocSql

open Sql (Cell Expr Valuation)

namespace Patch

def counter (stored : Entries Json) (key : String) : ℚ :=
  match Entries.find? stored key with
  | some (.num n) => n.exact
  | _ => 0

def IsCounter (stored : Entries Json) (key : String) : Prop :=
  ∀ value, Entries.find? stored key = some value → ∃ n, value = .num n ∧ n.IsFinite

def counted (stored : Entries Json) (increments : List (String × Number)) (kept : Entries Jsonb) :
    Entries Jsonb :=
  increments.foldl (fun all (key, amount) =>
    Entries.merge all [(key, .number (counter stored key + amount.exact))]) kept

/-- What a patch makes of a stored object. -/
def applied (keys : Patch) (stored : Entries Json) : Entries Jsonb :=
  let start := if keys.merge then Entries.mapValues .given stored else []
  Entries.merge (counted stored keys.increments (keys.deletes.foldl Entries.erase start))
    (Entries.mapValues .given keys.values)

variable {keys : Patch} {stored : Entries Json} {key : String}

theorem find?_counted_other {increments : List (String × Number)} {kept : Entries Jsonb}
    (h : ∀ amount, (key, amount) ∉ increments) :
    Entries.find? (counted stored increments kept) key = Entries.find? kept key := by
  unfold counted
  induction increments generalizing kept with
  | nil => rfl
  | cons first rest ih =>
    obtain ⟨name, amount⟩ := first
    have hname : name ≠ key := by
      rintro rfl
      exact h amount List.mem_cons_self
    rw [List.foldl_cons, ih fun amount ha => h amount (List.mem_cons_of_mem _ ha),
      Entries.find?_merge, Entries.find?_cons, if_neg hname, Entries.find?_nil, Option.none_or]

theorem find?_counted {increments : List (String × Number)} {kept : Entries Jsonb} {amount : Number}
    (hm : (key, amount) ∈ increments) (ha : ∀ other, (key, other) ∈ increments → other = amount) :
    Entries.find? (counted stored increments kept) key =
      some (.number (counter stored key + amount.exact)) := by
  unfold counted
  induction increments generalizing kept with
  | nil => cases hm
  | cons first rest ih =>
    rw [List.foldl_cons]
    by_cases hlater : (key, amount) ∈ rest
    · exact ih hlater fun other ho => ha other (List.mem_cons_of_mem _ ho)
    · have hnone (other : Number) : (key, other) ∉ rest := fun ho =>
        hlater (ha other (List.mem_cons_of_mem _ ho) ▸ ho)
      have hfirst : first = (key, amount) := ((List.mem_cons.1 hm).resolve_right hlater).symm
      subst hfirst
      refine (find?_counted_other hnone).trans ?_
      rw [Entries.find?_merge, Entries.find?_cons, if_pos rfl, Option.some_or]

theorem find?_applied : Entries.find? (keys.applied stored) key =
    ((Entries.find? keys.values key).map .given).or
      (Entries.find? (counted stored keys.increments (keys.deletes.foldl Entries.erase
        (if keys.merge then Entries.mapValues .given stored else []))) key) := by
  unfold applied
  rw [Entries.find?_merge, Entries.find?_mapValues]

end Patch

namespace Change

variable {stored : String → Option (Entries Json)} {name key : String} {amount : Number}

theorem value_counter (h : Patch.IsCounter ((stored name).getD []) key) :
    (Expr.cast (.coalesce (.keyText (.column name) key) (.quoted "0")) "double precision").value
      (.ofObjects stored) = some (.number (Patch.counter ((stored name).getD []) key)) := by
  have hmember : ((Expr.column name).members? stored).bind (Entries.find? · key) =
      (Entries.find? ((stored name).getD []) key).map .given := by
    rw [Expr.members?_column]
    cases stored name with
    | none => rfl
    | some members => exact Entries.find?_mapValues Jsonb.given members key
  have hcast (s : String) {q : ℚ} (hs : readDecimal? s = some q) :
      Cell.cast "double precision" (.text s) = .number q := by
    change (readDecimal? s).elim (Cell.text s) _ = _
    rw [hs]
    rfl
  change Option.map (Cell.cast "double precision") ((Expr.coalesce _ _).value _) = _
  rw [Expr.value_coalesce, Expr.value_keyText, hmember, Expr.value_quoted]
  unfold Patch.counter
  cases hfound : Entries.find? ((stored name).getD []) key with
  | none => exact congrArg some (hcast "0" (Number.readDecimal?_int 0))
  | some value =>
    obtain ⟨n, rfl, hn⟩ := h value hfound
    exact congrArg some (hcast n.text (Number.readDecimal?_text hn))

theorem members?_incrementExpr (h : Patch.IsCounter ((stored name).getD []) key)
    (ha : amount.IsCarried) :
    (incrementExpr (.column name) key amount).members? stored =
      some [(key, .number (Patch.counter ((stored name).getD []) key + amount.exact))] :=
  Expr.members?_single key (Expr.value_sum (value_counter h) (Expr.value_number ha))

variable {keys : Patch}

theorem members?_deletes (deletes : List String) {e : Expr} {members : Entries Jsonb}
    (h : e.members? stored = some members) :
    (deletes.foldl (fun e key => Expr.combine "-" e (.cast (.text key) "text")) e).members? stored =
      some (deletes.foldl Entries.erase members) := by
  induction deletes generalizing e members with
  | nil => exact h
  | cons key rest ih =>
    rw [List.foldl_cons, List.foldl_cons]
    refine ih (Expr.members?_of_value ?_)
    rw [Expr.value_without, h]
    rfl

theorem members?_increments {increments : List (String × Number)}
    (hc : ∀ entry ∈ increments, Patch.IsCounter ((stored name).getD []) entry.1)
    (ha : ∀ entry ∈ increments, entry.2.IsCarried) {e : Expr} {members : Entries Jsonb}
    (h : e.members? stored = some members) :
    (increments.foldl (fun e (key, amount) =>
      Expr.combine "||" e (incrementExpr (.column name) key amount)) e).members? stored =
        some (Patch.counted ((stored name).getD []) increments members) := by
  unfold Patch.counted
  induction increments generalizing e members with
  | nil => exact h
  | cons first rest ih =>
    rw [List.foldl_cons, List.foldl_cons]
    refine ih (fun entry he => hc entry (List.mem_cons_of_mem _ he))
      (fun entry he => ha entry (List.mem_cons_of_mem _ he)) (Expr.members?_of_value ?_)
    rw [Expr.value_over, h, members?_incrementExpr (hc first List.mem_cons_self)
      (ha first List.mem_cons_self)]
    rfl

/-- The expression of a patch comes to what the patch makes of the object that
is stored, or of the empty one. -/
theorem patchExpr_value
    (hc : ∀ entry ∈ keys.increments, Patch.IsCounter ((stored name).getD []) entry.1)
    (ha : ∀ entry ∈ keys.increments, entry.2.IsCarried) :
    (patchExpr (.column name) keys).value (.ofObjects stored) =
      some (.jsonb (.object (keys.applied ((stored name).getD [])))) := by
  have hstart : (if keys.merge then Expr.coalesce (.column name) .emptyObject
      else .emptyObject).members? stored =
        some (if keys.merge then Entries.mapValues .given ((stored name).getD []) else []) := by
    split
    · exact Expr.members?_orEmpty name
    · exact Expr.members?_emptyObject
  have hcounted := members?_increments hc ha (members?_deletes keys.deletes hstart)
  unfold patchExpr
  dsimp only
  refine (Expr.value_over _ _).trans ?_
  rw [hcounted, Expr.members?_json]
  rfl

theorem incrementExpr_binds (name key : String) (amount : Number) :
    Expr.Binds 4 (incrementExpr (.column name) key amount) := by
  have hkey : Expr.Binds 3 (.cast (.text key) "text") := .cast (.mono (.param _) (by decide)) _
  have hstored : Expr.Binds 4 (.coalesce (.keyText (.column name) key) (.quoted "0")) :=
    .apply₂ _ (a := .keyText (.column name) key) trivial (Expr.Binds.quoted _).grouped
  have hnumber := (hstored.mono (by decide : 3 ≤ 4)).cast "double precision"
  have hsum : Expr.Binds 2 (.combine "+" (.cast (.coalesce (.keyText (.column name) key)
      (.quoted "0")) "double precision") (.param (.ofNumber amount))) :=
    .combine rfl (hnumber.mono (by decide)) (.mono (.param _) (by decide))
  exact .apply₂ _ hkey.grouped hsum.grouped

theorem patchExpr_isGrouped (name : String) (keys : Patch) :
    (patchExpr (.column name) keys).IsGrouped := by
  have hlaid (e : Expr) (h : Expr.Binds 1 e) :
      Expr.Binds 1 (.combine "||" e (.json (.obj keys.values))) :=
    .combine rfl h (.mono (.json _) (by decide))
  have hstart : Expr.Binds 3 (if keys.merge then .coalesce (.column name) .emptyObject
      else .emptyObject) := by
    split
    · exact .mono (.apply₂ _ (Expr.Binds.column name).grouped Expr.Binds.emptyObject.grouped)
        (by decide)
    · exact .emptyObject
  have hkept : Expr.Binds 2 (keys.deletes.foldl
      (fun e key => .combine "-" e (.cast (.text key) "text")) (if keys.merge then
        .coalesce (.column name) .emptyObject else .emptyObject)) :=
    List.foldlRecOn keys.deletes _ (hstart.mono (by decide)) fun e he key _ =>
      .combine rfl he (.cast (.mono (.param _) (by decide)) _)
  have hcounted : Expr.Binds 1 (keys.increments.foldl
      (fun e (key, amount) => .combine "||" e (incrementExpr (.column name) key amount))
      (keys.deletes.foldl (fun e key => .combine "-" e (.cast (.text key) "text")) (if keys.merge then
        .coalesce (.column name) .emptyObject else .emptyObject))) :=
    List.foldlRecOn keys.increments _ (hkept.mono (by decide)) fun e he entry _ =>
      .combine rfl he ((incrementExpr_binds name entry.1 entry.2).mono (by decide))
  exact (hlaid _ hcounted).grouped

end Change
end DocSql
