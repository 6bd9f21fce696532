import DocSql.Proofs.Session.Successes
import DocSql.Proofs.Statement.TableColumns
import DocSql.Proofs.Store.AddedField

/-!
Bringing a table up to its schema. An engine that refuses nothing after it has
listed the columns lets every addition through, so what is added depends on that
list alone. Main statement: `Store.upgradeSchema_exact`.
-/
namespace DocSql

open Sql (identifier)

theorem FieldType.isRelation_iff {type : FieldType} :
    type.isRelation ↔ ∃ target, type = .relation target := by
  cases type with
  | relation target => exact iff_of_true rfl ⟨target, rfl⟩
  | _ => exact iff_of_false nofun nofun

namespace Schema

variable {schema : Schema} {present : List String} {column : String × FieldType}

def lacking (schema : Schema) (present : List String) : Entries FieldType :=
  schema.columns.filter fun column => !present.contains column.1

theorem mem_lacking_iff :
    column ∈ schema.lacking present ↔ column ∈ schema.columns ∧ column.1 ∉ present := by
  unfold lacking
  simp

theorem lacking_eq_nil (h : ∀ name ∈ Entries.keys schema.columns, name ∈ present) :
    schema.lacking present = [] := by
  refine List.eq_nil_iff_forall_not_mem.2 fun column hc => ?_
  obtain ⟨hcolumn, hpresent⟩ := mem_lacking_iff.1 hc
  exact hpresent (h column.1 (List.mem_map_of_mem hcolumn))

theorem keys_lacking_nodup (schema : Schema) (hs : (Entries.keys schema.fields).Pairwise (· < ·))
    (present : List String) : (Entries.keys (schema.lacking present)).Nodup :=
  (Entries.keys_nodup (columns_sorted hs)).sublist (List.filter_sublist.map _)

theorem mem_relationFields_iff {entry : String × FieldType} :
    entry ∈ schema.relationFields ↔ entry ∈ schema.fields ∧ ∃ target, entry.2 = .relation target := by
  unfold relationFields
  rw [List.mem_filter, FieldType.isRelation_iff]

theorem keys_relationFields_nodup (hs : (Entries.keys schema.fields).Pairwise (· < ·)) :
    (Entries.keys schema.relationFields).Nodup :=
  (Entries.keys_nodup hs).sublist (List.filter_sublist.map _)

end Schema

/-- The statement that makes room for a field: a join table for a relation, and a
column of its type for any other. -/
inductive Catalog.MakesRoom (catalog : Catalog) (className : String) :
    String × FieldType → Statement → Prop
  | joinTable {field target : String} : MakesRoom catalog className (field, .relation target)
      { sql := "CREATE TABLE IF NOT EXISTS " ++ identifier ("_Join:" ++ field ++ ":" ++ className) ++
          " (\"relatedId\" " ++ ("varchar(" ++ toString catalog.idWidth ++ ")") ++
          ", \"owningId\" " ++ ("varchar(" ++ toString catalog.idWidth ++ ")") ++
          ", PRIMARY KEY (\"relatedId\", \"owningId\"))" }
  | column {field text : String} {type : FieldType} (h : type.isRelation = false)
    (ht : catalog.columnType field type = .ok text) : MakesRoom catalog className (field, type)
      { sql := "ALTER TABLE " ++ identifier className ++ " ADD COLUMN IF NOT EXISTS " ++
          identifier field ++ " " ++ text }

namespace Store

variable (store : Store) (className : String)

/-- A committed transaction that makes room for a field and then declares it,
unless the metadata was found to declare it already. -/
inductive Adds (entry : String × FieldType) : List Event → Prop
  | declared {room : Statement} (h : store.catalog.MakesRoom className entry room)
    (marked count released : Nat) {rows : List Row} (hr : rows ≠ []) :
    Adds entry [.begun, .executed (.mark 1) marked, .executed room count,
      .executed (.release 1) released,
      .found (store.declaredQuestion className entry.1) rows, ⟨.commit, .ok ()⟩]
  | declaring {room : Statement} (h : store.catalog.MakesRoom className entry room)
    (marked count released declared : Nat) :
    Adds entry [.begun, .executed (.mark 1) marked, .executed room count,
      .executed (.release 1) released,
      .found (store.declaredQuestion className entry.1) [],
      .executed (store.declaration className entry) declared, ⟨.commit, .ok ()⟩]

def MakesRoomBy (entry : String × FieldType) (log : List Event) : Prop :=
  ∃ room, store.catalog.MakesRoom className entry room ∧ ∃ marked count released,
    log = [.executed (.mark 1) marked, .executed room count, .executed (.release 1) released]

variable {className}

theorem addColumn_passes (field : String) {type : FieldType} (h : type.isRelation = false) :
    (store.addColumn className field type).Passes {} fun log _ =>
      store.MakesRoomBy className (field, type) log := by
  obtain ⟨text, htext⟩ := store.catalog.columnType_ok field h
  unfold addColumn Catalog.addColumn
  rw [htext]
  change (Work.absorbing _ _ >>= _ : Work Unit).Passes _ _
  refine Work.Passes.absorbing.bind ?_
  rintro log _ middle ⟨hlog, rfl⟩
  refine .pure ?_
  rw [List.append_nil]
  exact ⟨_, .column h htext, hlog⟩

theorem joinTable_passes (field target : String) :
    (Work.absorbing (store.catalog.createJoinTable className field) isBenignCreation).Passes {}
      fun log _ => store.MakesRoomBy className (field, .relation target) log :=
  Work.Passes.absorbing.mono fun _ _ hlog => ⟨_, .joinTable, hlog.1⟩

theorem declaring_passes (entry : String × FieldType) {before : List Event} (tx : Transaction)
    (h : store.MakesRoomBy className entry before) :
    Work.Passes (do
      let declared ← Work.query (store.catalog.selectDeclaredField className entry.1)
      if declared.isEmpty then Work.execute (store.declareField className entry.1 entry.2)) tx
      fun log _ =>
        store.Adds className entry (.begun :: ((before ++ log) ++ [⟨.commit, .ok ()⟩])) := by
  obtain ⟨room, hroom, marked, count, released, rfl⟩ := h
  refine Work.Passes.query.bind ?_
  rintro _ rows middle rfl
  cases rows with
  | nil =>
    refine Work.Passes.execute.mono ?_
    rintro _ _ ⟨declared, rfl⟩
    exact .declaring hroom marked count released declared
  | cons row rest => exact .pure (.declared hroom marked count released (List.cons_ne_nil row rest))

theorem addField_passes (field : String) (type : FieldType) :
    (store.addField className field type).Passes fun log _ =>
      store.Adds className (field, type) log := by
  have hinside : (store.addFieldInside className field type).Passes {} fun body _ =>
      store.Adds className (field, type) (.begun :: (body ++ [⟨.commit, .ok ()⟩])) := by
    unfold addFieldInside
    cases hr : type.isRelation with
    | true =>
      obtain ⟨target, rfl⟩ := FieldType.isRelation_iff.1 hr
      exact (store.joinTable_passes field target).bind fun _ _ middle h =>
        store.declaring_passes (field, .relation target) middle h
    | false =>
      exact (store.addColumn_passes field hr).bind fun _ _ middle h =>
        store.declaring_passes (field, type) middle h
  refine (Transaction.run_passes hinside).mono ?_
  rintro _ _ ⟨body, rfl, hadds⟩
  exact hadds

def listedColumns (rows : List Row) : List String :=
  rows.filterMap fun row => row.textColumn? "column_name"

variable (className)

def columnsQuestion : Statement where
  sql := "SELECT column_name FROM information_schema.columns WHERE table_name = $1"
  params := [.text className]

def listing (rows : List Row) : Event := ⟨.query (columnsQuestion className), .ok rows⟩

/-- The engine lists the columns of the class in these rows, and refuses nothing then. -/
structure Admits (engine : Engine) (rows : List Row) : Prop where
  lists : engine [] (.query (columnsQuestion className)) = .ok rows
  succeeds : engine.SucceedsAfter [listing className rows]

/-- An upgrade asks for the columns and then adds these fields, each in a
transaction of its own, and does nothing else. -/
def UpgradesBy (schema : Schema) (engine : Engine) (rows : List Row)
    (entries : Entries FieldType) : Prop :=
  ∃ additions, (store.upgradeSchema className schema).exchange engine =
      (listing className rows :: additions.flatten, .ok ()) ∧
    List.Forall₂ (store.Adds className) entries additions

theorem additions_pass (entries : Entries FieldType) :
    Operation.Passes (entries.forM fun entry => store.addField className entry.1 entry.2)
      fun log _ => ∃ additions, log = additions.flatten ∧
        List.Forall₂ (store.Adds className) entries additions :=
  .forM fun entry _ => store.addField_passes entry.1 entry.2

theorem Admits.upgradesBy {engine : Engine} {rows : List Row} (h : Admits className engine rows)
    (schema : Schema) : store.UpgradesBy className schema engine rows
      (schema.relationFields ++ (schema.named className).lacking (listedColumns rows)) := by
  obtain ⟨log, _, hrun, additions, rfl, hadds⟩ := (store.additions_pass className
    (schema.relationFields ++ (schema.named className).lacking (listedColumns rows))).run h.succeeds
  refine ⟨additions, ?_, hadds⟩
  have hlists : engine [] (.query (Catalog.tableColumns className)) = .ok rows := h.lists
  unfold upgradeSchema Operation.exchange
  rw [Operation.run_bind_ok (Operation.run_query hlists)]
  exact congrArg (fun made => ([listing className rows] ++ made.1, made.2)) hrun

variable {className}

/-- Where the engine refuses nothing after it has listed the columns, an upgrade
adds every relation and every column that is not listed, each once and in a committed
transaction of its own, and does nothing else besides declaring them. An upgrade
that then finds all of these columns listed adds no column. -/
theorem upgradeSchema_exact {schema : Schema} (hs : (Entries.keys schema.fields).Pairwise (· < ·))
    {engine : Engine} {rows : List Row} (h : Admits className engine rows) :
    let missing := (schema.named className).lacking (listedColumns rows)
    store.UpgradesBy className schema engine rows (schema.relationFields ++ missing) ∧
    (Entries.keys schema.relationFields).Nodup ∧ (Entries.keys missing).Nodup ∧
    (∀ entry, entry ∈ schema.relationFields ↔
      entry ∈ schema.fields ∧ ∃ target, entry.2 = .relation target) ∧
    (∀ column, column ∈ missing ↔
      column ∈ (schema.named className).columns ∧ column.1 ∉ listedColumns rows) ∧
    ∀ later found, Admits className later found →
      (∀ name, name ∈ listedColumns rows ∨ name ∈ Entries.keys missing →
        name ∈ listedColumns found) →
      store.UpgradesBy className schema later found schema.relationFields := by
  intro missing
  refine ⟨h.upgradesBy store className schema, Schema.keys_relationFields_nodup hs,
    (schema.named className).keys_lacking_nodup hs _, fun _ => Schema.mem_relationFields_iff,
    fun column => Schema.mem_lacking_iff, fun later found hlater hfound => ?_⟩
  -- A column was listed before the first upgrade or added by it.
  have hnone : (schema.named className).lacking (listedColumns found) = [] := by
    refine Schema.lacking_eq_nil fun name hname => hfound name ?_
    obtain ⟨column, hcolumn, rfl⟩ := List.mem_map.1 hname
    by_cases hlisted : column.1 ∈ listedColumns rows
    · exact .inl hlisted
    · exact .inr (List.mem_map_of_mem (Schema.mem_lacking_iff.2 ⟨hcolumn, hlisted⟩))
  have hupgrade := hlater.upgradesBy store className schema
  rwa [hnone, List.append_nil] at hupgrade

/-- A team that has got members and a score, upgraded twice. -/
theorem score_added :
    let store : Store := { now := ⟨0, 0⟩ }
    let schema : Schema := { fields := [("members", .relation "Person"), ("score", .number)] }
    let listing (names : List String) : List Row :=
      names.map fun name => [("column_name", .text name)]
    let engine (names : List String) : Engine := fun said =>
      answering (if said.isEmpty then listing names else []) said
    let names := ["objectId", "createdAt", "updatedAt", "_rperm", "_wperm"]
    store.UpgradesBy "Team" schema (engine names) (listing names)
      [("members", .relation "Person"), ("score", .number)] ∧
    store.UpgradesBy "Team" schema (engine (names ++ ["score"])) (listing (names ++ ["score"]))
      [("members", .relation "Person")] := by
  intro store schema listing engine names
  have hs : (Entries.keys schema.fields).Pairwise (· < ·) := by decide
  have hadmits (names : List String) : Admits "Team" (engine names) (listing names) :=
    ⟨rfl, fun more call => answering_succeeds _ _ call⟩
  obtain ⟨hupgrade, -, -, -, -, hlater⟩ := store.upgradeSchema_exact hs (hadmits names)
  exact ⟨hupgrade, hlater _ _ (hadmits (names ++ ["score"])) fun name => List.mem_append.2⟩

end Store
end DocSql
