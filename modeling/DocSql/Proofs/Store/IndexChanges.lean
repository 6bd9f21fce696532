import DocSql.Proofs.Entries
import DocSql.Proofs.Outcome
import DocSql.Proofs.Session.Successes
import DocSql.Store.Indexes

/-!
Changes of indexes. The submitted ones are checked one after the other against
a map that grows with them, yet as no name is submitted twice each is judged by
the indexes there were before, and they all come to one change of the map. Main
statement: `Store.setIndexes_exact`.
-/
namespace DocSql

namespace IndexMap

def before (existing : IndexMap) : IndexMap :=
  if existing.isEmpty then [("_id_", [("_id", .int 1)])] else existing

def refusal? (indexes : IndexMap) (fields : Entries FieldType) (entry : String × Json) :
    Option String :=
  let (name, spec) := entry
  match isDelete spec, decide (name ∈ Entries.keys indexes), spec with
  | true, true, _ => none
  | true, false, _ => some ("Index " ++ name ++ " does not exist, cannot delete.")
  | false, true, _ => some ("Index " ++ name ++ " exists, cannot update.")
  | false, false, .obj directions =>
    ((Entries.keys directions).find? (· ∉ Entries.keys fields)).map fun field =>
      "Field " ++ field ++ " does not exist, cannot add index."
  | false, false, _ => some ("Index " ++ name ++ " must map fields to a direction")

def directions? (spec : Json) : Option (Entries Json) :=
  match spec with
  | .obj directions => if isDelete spec then none else some directions
  | _ => none

def toAdd (submitted : Entries Json) : IndexMap :=
  submitted.filterMap fun entry => (directions? entry.2).map (entry.1, ·)

def toDelete (submitted : Entries Json) : List String :=
  Entries.keys (submitted.filter fun entry => isDelete entry.2)

/-- The indexes of a class after a change: those before without the deleted
ones, and with the added ones. -/
def after (indexes : IndexMap) (submitted : Entries Json) : IndexMap :=
  Entries.merge ((toDelete submitted).foldl Entries.erase indexes) (toAdd submitted)

variable {indexes others existing : IndexMap} {fields : Entries FieldType}
  {submitted : Entries Json} {plan : Change} {name : String} {spec : Json}

def Change.plus (plan : Change) (name : String) (spec : Json) : Change where
  indexes :=
    if isDelete spec then Entries.erase plan.indexes name
    else ((directions? spec).map (Entries.insert plan.indexes name)).getD plan.indexes
  inserted := plan.inserted ++
    (toAdd [(name, spec)]).map fun entry => ⟨entry.1, Entries.keys entry.2⟩
  deleted := plan.deleted ++ toDelete [(name, spec)]

theorem directions?_of_isDelete (h : isDelete spec) : directions? spec = none := by
  cases spec with
  | obj directions => exact if_pos h
  | null | bool _ | num _ | str _ | arr _ => rfl

theorem directions?_of_not_isDelete {directions : Entries Json}
    (h : isDelete (.obj directions) = false) : directions? (.obj directions) = some directions :=
  if_neg (ne_true_of_eq_false h)

theorem Change.plus_of_isDelete (plan : Change) (name : String) (h : isDelete spec) :
    plan.plus name spec = { plan with
      indexes := Entries.erase plan.indexes name
      deleted := plan.deleted ++ [name] } := by
  simp [plus, toAdd, toDelete, directions?_of_isDelete h, h, Entries.keys]

theorem Change.plus_of_not_isDelete (plan : Change) (name : String) {directions : Entries Json}
    (h : isDelete (.obj directions) = false) :
    plan.plus name (.obj directions) = { plan with
      indexes := Entries.insert plan.indexes name directions
      inserted := plan.inserted ++ [{ name, fields := Entries.keys directions }] } := by
  simp [plus, toAdd, toDelete, directions?_of_not_isDelete h, h, Entries.keys]

theorem Change.add_eq (fields : Entries FieldType) (plan : Change) (name : String) (spec : Json) :
    Change.add fields plan (name, spec) =
      match refusal? plan.indexes fields (name, spec) with
      | some text => refuse text
      | none => .ok (plan.plus name spec) := by
  unfold Change.add refusal?
  simp only [Entries.contains_eq_decide]
  cases hdelete : isDelete spec with
  | true =>
    cases decide (name ∈ Entries.keys plan.indexes) with
    | false => rfl
    | true => exact congrArg Except.ok (plan.plus_of_isDelete name hdelete).symm
  | false =>
    cases decide (name ∈ Entries.keys plan.indexes) with
    | true => rfl
    | false =>
      cases spec with
      | obj directions =>
        simp only [decide_not]
        cases (Entries.keys directions).find? fun key => !decide (key ∈ Entries.keys fields) with
        | some field => rfl
        | none => exact congrArg Except.ok (plan.plus_of_not_isDelete name hdelete).symm
      | null | bool _ | num _ | str _ | arr _ => rfl

theorem refusal?_congr (h : name ∈ Entries.keys indexes ↔ name ∈ Entries.keys others) :
    refusal? indexes fields (name, spec) = refusal? others fields (name, spec) := by
  unfold refusal?
  simp only [h]

theorem Change.find?_plus (key : String) :
    Entries.find? (plan.plus name spec).indexes key =
      if name = key then (directions? spec).or
        (if isDelete spec then none else Entries.find? plan.indexes key)
      else Entries.find? plan.indexes key := by
  unfold plus
  cases hdelete : isDelete spec with
  | true =>
    rw [directions?_of_isDelete hdelete, if_pos rfl, if_pos rfl, Entries.find?_erase]
    simp only [eq_comm, Option.none_or]
  | false =>
    cases directions? spec with
    | none => simp
    | some directions => simp [Entries.find?_insert]

theorem Change.plus_sorted (name : String) (spec : Json)
    (h : (Entries.keys plan.indexes).Pairwise (· < ·)) :
    (Entries.keys (plan.plus name spec).indexes).Pairwise (· < ·) := by
  unfold plus
  dsimp only
  split
  · exact Entries.erase_sorted h name
  · cases directions? spec with
    | none => exact h
    | some directions => exact Entries.insert_sorted name directions h

def Change.plusAll (plan : Change) (submitted : Entries Json) : Change :=
  submitted.foldl (fun plan entry => plan.plus entry.1 entry.2) plan

theorem foldlM_add (hn : (Entries.keys submitted).Nodup)
    (hc : ∀ name ∈ Entries.keys submitted,
      name ∈ Entries.keys plan.indexes ↔ name ∈ Entries.keys indexes) :
    submitted.foldlM (Change.add fields) plan =
      match submitted.findSome? (refusal? indexes fields) with
      | some text => refuse text
      | none => .ok (plan.plusAll submitted) := by
  induction submitted generalizing plan with
  | nil => rfl
  | cons entry rest ih =>
    obtain ⟨name, spec⟩ := entry
    obtain ⟨hname, hrest⟩ := List.nodup_cons.1 hn
    obtain ⟨hfirst, hlater⟩ := List.forall_mem_cons.1 hc
    rw [List.foldlM_cons, Change.add_eq, refusal?_congr hfirst, List.findSome?_cons]
    cases refusal? indexes fields (name, spec) with
    | some text => rfl
    | none =>
      -- Later names differ from this one, so the map has them just as it had before.
      refine ih hrest fun key hkey => ?_
      have hother : name ≠ key := by
        rintro rfl
        exact hname hkey
      rw [Entries.mem_keys_iff, Change.find?_plus, if_neg hother, ← Entries.mem_keys_iff]
      exact hlater key hkey

theorem toAdd_append (first rest : Entries Json) :
    toAdd (first ++ rest) = toAdd first ++ toAdd rest :=
  List.filterMap_append

theorem toDelete_append (first rest : Entries Json) :
    toDelete (first ++ rest) = toDelete first ++ toDelete rest := by
  unfold toDelete Entries.keys
  rw [List.filter_append, List.map_append]

theorem Change.plusAll_statements (plan : Change) (submitted : Entries Json) :
    (plan.plusAll submitted).inserted = plan.inserted ++
        (toAdd submitted).map (fun entry => ⟨entry.1, Entries.keys entry.2⟩) ∧
      (plan.plusAll submitted).deleted = plan.deleted ++ toDelete submitted := by
  induction submitted generalizing plan with
  | nil => exact ⟨(List.append_nil _).symm, (List.append_nil _).symm⟩
  | cons entry rest ih =>
    obtain ⟨hinserted, hdeleted⟩ := ih (plan.plus entry.1 entry.2)
    rw [← List.singleton_append, toAdd_append, toDelete_append, List.map_append]
    refine ⟨hinserted.trans (List.append_assoc ..), hdeleted.trans (List.append_assoc ..)⟩

theorem Change.find?_plusAll (hn : (Entries.keys submitted).Nodup) (key : String) :
    Entries.find? (plan.plusAll submitted).indexes key =
      ((Entries.find? submitted key).bind directions?).or
        (if (Entries.find? submitted key).any isDelete then none
        else Entries.find? plan.indexes key) := by
  induction submitted generalizing plan with
  | nil => rfl
  | cons entry rest ih =>
    obtain ⟨name, spec⟩ := entry
    obtain ⟨hname, hrest⟩ := List.nodup_cons.1 hn
    change Entries.find? ((plan.plus name spec).plusAll rest).indexes key = _
    rw [ih hrest, find?_plus, Entries.find?_cons]
    by_cases hsame : name = key
    · subst hsame
      rw [Entries.find?_eq_none_iff.2 hname, if_pos rfl, if_pos rfl]
      rfl
    · rw [if_neg hsame, if_neg hsame]

theorem Change.plusAll_sorted (submitted : Entries Json)
    (h : (Entries.keys plan.indexes).Pairwise (· < ·)) :
    (Entries.keys (plan.plusAll submitted).indexes).Pairwise (· < ·) := by
  induction submitted generalizing plan with
  | nil => exact h
  | cons entry rest ih => exact ih (plus_sorted entry.1 entry.2 h)

theorem mem_toDelete_iff (hn : (Entries.keys submitted).Nodup) :
    name ∈ toDelete submitted ↔ (Entries.find? submitted name).any isDelete := by
  constructor
  · intro h
    obtain ⟨⟨key, spec⟩, hmem, rfl⟩ := List.mem_map.1 h
    obtain ⟨hmem, hdelete⟩ := List.mem_filter.1 hmem
    rw [Entries.find?_of_mem_of_nodup hn hmem]
    exact hdelete
  · intro h
    cases hspec : Entries.find? submitted name with
    | none =>
      rw [hspec] at h
      cases h
    | some spec =>
      rw [hspec] at h
      exact List.mem_map_of_mem (List.mem_filter.2 ⟨Entries.mem_of_find? hspec, h⟩)

theorem find?_after (hn : (Entries.keys submitted).Nodup) (key : String) :
    Entries.find? (after indexes submitted) key =
      ((Entries.find? submitted key).bind directions?).or
        (if (Entries.find? submitted key).any isDelete then none
        else Entries.find? indexes key) := by
  rw [after, Entries.find?_merge, Entries.find?_foldl_erase, toAdd, Entries.find?_filterMap _ hn]
  simp only [mem_toDelete_iff hn]

theorem after_sorted (indexes : IndexMap) (hs : (Entries.keys submitted).Pairwise (· < ·)) :
    (Entries.keys (after indexes submitted)).Pairwise (· < ·) :=
  Entries.merge_sorted _ (hs.sublist (Entries.keys_filterMap_sublist directions? submitted))

theorem change_eq (fields : Entries FieldType)
    (hs : (Entries.keys submitted).Pairwise (· < ·))
    (he : (Entries.keys existing).Pairwise (· < ·)) :
    change existing fields submitted =
      match submitted.findSome? (refusal? (before existing) fields) with
      | some text => refuse text
      | none => .ok {
        indexes := after (before existing) submitted
        inserted := (toAdd submitted).map fun entry => ⟨entry.1, Entries.keys entry.2⟩
        deleted := toDelete submitted } := by
  have hn := Entries.keys_nodup hs
  have hbefore : (Entries.keys (before existing)).Pairwise (· < ·) := by
    unfold before
    split
    · exact List.pairwise_singleton _ _
    · exact he
  let start : Change := { indexes := before existing }
  have hfold : change existing fields submitted =
      match submitted.findSome? (refusal? (before existing) fields) with
      | some text => refuse text
      | none => .ok (start.plusAll submitted) :=
    foldlM_add hn fun _ _ => Iff.rfl
  rw [hfold]
  cases submitted.findSome? (refusal? (before existing) fields) with
  | some text => rfl
  | none =>
    have hstart : (Entries.keys start.indexes).Pairwise (· < ·) := hbefore
    have hindexes := Entries.eq_of_find? (Change.plusAll_sorted submitted hstart)
      (after_sorted (before existing) hs) fun key value => by
        rw [Change.find?_plusAll hn, find?_after hn]
    obtain ⟨hinserted, hdeleted⟩ := start.plusAll_statements submitted
    refine congrArg Except.ok ?_
    generalize start.plusAll submitted = result at *
    cases result
    cases hindexes
    cases hinserted
    cases hdeleted
    rfl

end IndexMap

namespace Store

open IndexMap
open Sql (identifier)

/-- Everything that changes the indexes of a class: one statement for each added
index, with its fields in the order of their names, one for each deleted index,
and one that stores the map under `indexes`. -/
def indexStatements (store : Store) (className : String) (existing : IndexMap)
    (submitted : Entries Json) : List Statement :=
  (toAdd submitted).map (fun (name, directions) =>
      { sql := "CREATE INDEX IF NOT EXISTS " ++ identifier name ++ " ON " ++ identifier className ++
          " (" ++ String.intercalate ", " ((Entries.keys directions).map identifier) ++ ")" }) ++
    (toDelete submitted).map (fun name => { sql := "DROP INDEX IF EXISTS " ++ identifier name }) ++
    [{ sql := "UPDATE " ++ identifier store.catalog.metadataTable ++
        " SET \"schema\" = jsonb_set(\"schema\", $1::text[], $2::jsonb) WHERE \"className\" = $3"
       params := [.text "\x7bindexes\x7d", .json (.obj ((after (before existing) submitted).map
        fun (name, directions) => (name, .obj directions))), .text className] }]

theorem setIndexes_does (store : Store) (className : String) {fields : Entries FieldType}
    {submitted : Entries Json} {existing : IndexMap} {plan : Change}
    (hplan : change existing fields submitted = .ok plan) :
    let statements :=
      plan.inserted.map (fun index => Catalog.createIndex className index.name index.fields) ++
        (plan.deleted.map Catalog.dropIndex ++
          [store.catalog.setSchemaPath className ["indexes"] plan.indexes.toJson])
    (store.setIndexes className submitted existing fields).Does
      (.start :: (statements.map .executeInside ++ [.commit])) plan.indexes := by
  intro statements
  unfold setIndexes
  rw [hplan, Operation.lift_ok_bind, ← List.append_nil (Call.start :: _)]
  refine .bind (Transaction.run_does (a := ()) ?_) (.pure plan.indexes)
  exact (Work.Does.forM _ plan.inserted).bind ((Work.Does.forM _ plan.deleted).bind (.execute _))

/-- A change of indexes that one of the submitted ones does not allow asks the
engine nothing. Any other is one transaction, which creates the added indexes,
drops the deleted ones and stores the map that is given back, which has all
other entries as they were. -/
theorem setIndexes_exact (store : Store) (className : String) (fields : Entries FieldType)
    {submitted : Entries Json} {existing : IndexMap}
    (hs : (Entries.keys submitted).Pairwise (· < ·))
    (he : (Entries.keys existing).Pairwise (· < ·)) (engine : Engine) :
    let refused := submitted.findSome? (refusal? (before existing) fields)
    let changing := store.setIndexes className submitted existing fields
    (∀ text, refused = some text →
      changing.exchange engine = ([], .error (.invalidQuery text))) ∧
    (refused = none → engine.Succeeds →
      (changing.exchange engine).1.map Event.call = .start ::
        ((store.indexStatements className existing submitted).map .executeInside ++ [.commit]) ∧
      (changing.exchange engine).2 = .ok (after (before existing) submitted)) ∧
    ∀ name ∉ Entries.keys submitted,
      Entries.find? (after (before existing) submitted) name =
        Entries.find? (before existing) name := by
  intro refused changing
  have hchange := change_eq fields hs he
  refine ⟨fun text hrefused => ?_, fun hrefused hsucceeds => ?_, fun name hname => ?_⟩
  · rw [show submitted.findSome? _ = _ from hrefused] at hchange
    have hthrows : changing = throw (.invalidQuery text) := Operation.lift_error_bind hchange _
    rw [hthrows]
    rfl
  · rw [show submitted.findSome? _ = _ from hrefused] at hchange
    obtain ⟨hcalls, hresult⟩ := (store.setIndexes_does className hchange).exchange hsucceeds
    refine ⟨hcalls.trans ?_, hresult⟩
    rw [indexStatements, List.append_assoc, List.map_map]
    rfl
  · rw [find?_after (Entries.keys_nodup hs), Entries.find?_eq_none_iff.2 hname]
    rfl

/-- A request for one index more and one less, and one that is refused. -/
theorem titles_indexed :
    let store : Store := { now := ⟨0, 0⟩ }
    let existing : IndexMap := [("_id_", [("_id", .int 1)]), ("byAge", [("age", .int 1)])]
    let submitted := [("byAge", Json.obj [("__op", .str "Delete")]),
      ("byTitle", .obj [("author", .int 1), ("title", .int 1)])]
    let fields : Entries FieldType := [("author", .string), ("title", .string)]
    let changing := (store.setIndexes "Post" submitted existing fields).exchange (answering [])
    let indexes : IndexMap :=
      [("_id_", [("_id", .int 1)]), ("byTitle", [("author", .int 1), ("title", .int 1)])]
    let create := "CREATE INDEX IF NOT EXISTS \"byTitle\" ON \"Post\" (\"author\", \"title\")"
    let put := "UPDATE \"_SCHEMA\" SET \"schema\" = " ++
      "jsonb_set(\"schema\", $1::text[], $2::jsonb) WHERE \"className\" = $3"
    let stored := Json.obj [("_id_", .obj [("_id", .int 1)]),
      ("byTitle", .obj [("author", .int 1), ("title", .int 1)])]
    changing.1.map Event.call = [.start, .executeInside { sql := create },
      .executeInside { sql := "DROP INDEX IF EXISTS \"byAge\"" },
      .executeInside { sql := put, params := [.text "\x7bindexes\x7d", .json stored, .text "Post"] },
      .commit] ∧
    changing.2 = .ok indexes ∧
    (store.setIndexes "Post" submitted existing []).exchange (answering []) =
      ([], .error (.invalidQuery "Field author does not exist, cannot add index.")) := by
  intro store existing submitted fields changing indexes create put stored
  have hs : (Entries.keys submitted).Pairwise (· < ·) := by decide
  have he : (Entries.keys existing).Pairwise (· < ·) := by decide
  obtain ⟨hcalls, hresult⟩ :=
    (store.setIndexes_exact "Post" fields hs he (answering [])).2.1 rfl (answering_succeeds [])
  have hcreate : "CREATE INDEX IF NOT EXISTS " ++ identifier "byTitle" ++ " ON " ++
      identifier "Post" ++ " (" ++ String.intercalate ", " (["author", "title"].map identifier) ++
      ")" = create := by decide
  have hdrop : "DROP INDEX IF EXISTS " ++ identifier "byAge" = "DROP INDEX IF EXISTS \"byAge\"" := by
    decide
  have hput : "UPDATE " ++ identifier store.catalog.metadataTable ++
      " SET \"schema\" = jsonb_set(\"schema\", $1::text[], $2::jsonb) WHERE \"className\" = $3" =
        put := by decide
  have hstatements : store.indexStatements "Post" existing submitted = [{ sql := create },
      { sql := "DROP INDEX IF EXISTS \"byAge\"" },
      { sql := put, params := [.text "\x7bindexes\x7d", .json stored, .text "Post"] }] := by
    rw [← hcreate, ← hdrop, ← hput]
    rfl
  rw [hstatements] at hcalls
  exact ⟨hcalls, hresult, (store.setIndexes_exact "Post" [] hs he (answering [])).1 _ rfl⟩

end Store
end DocSql
