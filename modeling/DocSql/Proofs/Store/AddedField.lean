import DocSql.Proofs.Store.Discipline

/-!
What a success of adding a field says about the column. Adding it fails where
the table is missing; the table may be there a moment later all the same, made
by another request and without the column. Main statement: the column is assured
unless that happens, and the field is declared in either case.
-/
namespace DocSql

open Sql (identifier)

namespace Event

def success? : Event → Option Statement
  | ⟨.executeInside statement, .ok _⟩ => some statement
  | _ => none

def answer? : Event → Option (Statement × List Row)
  | ⟨.queryInside statement, .ok rows⟩ => some (statement, rows)
  | _ => none

variable {statement : Statement} {count : Nat} {rows : List Row}

@[simp] theorem success?_executed : (executed statement count).success? = some statement := rfl
@[simp] theorem success?_found : (found statement rows).success? = none := rfl
@[simp] theorem answer?_executed : (executed statement count).answer? = none := rfl
@[simp] theorem answer?_found : (found statement rows).answer? = some (statement, rows) := rfl

end Event

def Statement.MakesColumn (className field : String) (statement : Statement) : Prop :=
  statement.AddsColumn className field ∨ statement.CreatesTable className [field]

namespace Store

variable (store : Store) (className field : String)

def tableQuestion : Statement where
  sql := "SELECT EXISTS (SELECT 1 FROM information_schema.tables WHERE table_name = $1) " ++
    "AS \"exists\""
  params := [.text className]

def SaysYes (rows : List Row) : Prop :=
  ∃ row others, rows = row :: others ∧ Entries.find? row "exists" = some (.bool true)

theorem existsFlag_iff {rows : List Row} : existsFlag rows ↔ SaysYes rows := by
  unfold existsFlag SaysYes
  cases rows with
  | nil => simp
  | cons row others =>
    rw [List.head?_cons, Option.bind_some]
    split
    next b hb => simp [hb]
    next hother =>
      refine iff_of_false Bool.false_ne_true ?_
      rintro ⟨_, _, heq, hb⟩
      obtain ⟨rfl, -⟩ := List.cons.inj heq
      exact hother true hb

def declaredQuestion : Statement where
  sql := "SELECT \"schema\" FROM " ++ identifier store.catalog.metadataTable ++
    " WHERE \"className\" = $1 AND (\"schema\"::jsonb->'fields'->$2) IS NOT NULL"
  params := [.text className, .text field]

def declaration (entry : String × FieldType) : Statement where
  sql := "UPDATE " ++ identifier store.catalog.metadataTable ++
    " SET \"schema\" = jsonb_set(\"schema\", $1::text[], $2::jsonb) WHERE \"className\" = $3"
  params := [.text ("\x7bfields," ++ entry.1 ++ "\x7d"), .json entry.2.toJson, .text className]

/-- The column was added or made with its table, or the engine has said that it
is there. -/
def AssuresColumn (log : List Event) : Prop :=
  (∃ statement ∈ log.filterMap Event.success?, statement.MakesColumn className field) ∨
  ∃ failure ∈ log.filterMap Event.failure?,
    failure.1.AddsColumn className field ∧ failure.2.root.code = some "42701"

/-- The column was not added for another reason than that it is there, and then
another request was found to have made the table, of which nothing says that it
has the column. -/
def LosesColumn (log : List Event) : Prop :=
  (∃ failure ∈ log.filterMap Event.failure?,
    failure.1.AddsColumn className field ∧ failure.2.root.code ≠ some "42701") ∧
  ((∃ answer ∈ log.filterMap Event.answer?,
      answer.1 = tableQuestion className ∧ SaysYes answer.2) ∨
    ∃ failure ∈ log.filterMap Event.failure?, failure.1.CreatesTable className [field])

def DeclaresField (type : FieldType) (log : List Event) : Prop :=
  (∃ answer ∈ log.filterMap Event.answer?,
    answer.1 = store.declaredQuestion className field ∧ answer.2 ≠ []) ∨
  store.declaration className (field, type) ∈ log.filterMap Event.success?

/-- What is executed, what fails and what is found while adding a column succeeds. -/
inductive ColumnAdded : List Statement → List (Statement × EngineError) →
    List (Statement × List Row) → Prop
  | added (n : Nat) {alter : Statement} (h : alter.AddsColumn className field) :
    ColumnAdded [.mark n, alter, .release n] [] []
  | found (n : Nat) {alter : Statement} (h : alter.AddsColumn className field) (e : EngineError)
    {rows : List Row} (hr : existsFlag rows) :
    ColumnAdded [.mark n, .undo n] [(alter, e)] [(tableQuestion className, rows)]
  | created (n m : Nat) {alter create insert : Statement} (h : alter.AddsColumn className field)
    (e : EngineError) {rows : List Row} (hr : existsFlag rows = false)
    (hc : create.CreatesTable className [field]) (hi : insert.verb = "INSERT".toList) :
    ColumnAdded [.mark n, .undo n, .mark m, create, .release m, insert] [(alter, e)]
      [(tableQuestion className, rows)]
  | raced (n m : Nat) {alter create insert : Statement} (h : alter.AddsColumn className field)
    (e e' : EngineError) {rows : List Row} (hr : existsFlag rows = false)
    (hc : create.CreatesTable className [field]) (hi : insert.verb = "INSERT".toList) :
    ColumnAdded [.mark n, .undo n, .mark m, .undo m, insert] [(alter, e), (create, e')]
      [(tableQuestion className, rows)]

end Store

namespace Attempt

variable {statement : Statement} {benign : EngineError → Bool} {n : Nat} {log : List Event}

theorem effects_true (h : Attempt statement benign n log (.ok true)) :
    log.filterMap Event.success? = [.mark n, statement, .release n] ∧
      log.filterMap Event.failure? = [] ∧ log.filterMap Event.answer? = [] := by
  cases h
  exact ⟨rfl, rfl, rfl⟩

theorem effects_false (h : Attempt statement benign n log (.ok false)) :
    log.filterMap Event.success? = [.mark n, .undo n] ∧
      (∃ e, log.filterMap Event.failure? = [(statement, e)]) ∧
      log.filterMap Event.answer? = [] := by
  cases h
  exact ⟨rfl, ⟨_, rfl⟩, rfl⟩

end Attempt

namespace Statement

variable {className field : String} {fields : List String} {statement : Statement}

theorem not_addsColumn {word : List Char} (h : statement.verb = word)
    (hw : word ≠ "ALTER".toList) : ¬statement.AddsColumn className field :=
  fun hadds => hw (h.symm.trans hadds.verb)

theorem not_createsTable {word : List Char} (h : statement.verb = word)
    (hw : word ≠ "CREATE".toList) : ¬statement.CreatesTable className fields :=
  fun hcreates => hw (h.symm.trans hcreates.verb)

theorem not_makesColumn {word : List Char} (h : statement.verb = word)
    (ha : word ≠ "ALTER".toList) (hc : word ≠ "CREATE".toList) :
    ¬statement.MakesColumn className field := by
  rintro (hadds | hcreates)
  · exact not_addsColumn h ha hadds
  · exact not_createsTable h hc hcreates

end Statement

namespace Store

variable (store : Store) {className field : String} {type : FieldType} {tx after : Transaction}
  {log : List Event}

theorem runs_createInside {schema : Schema} (hn : schema.relationFields = [])
    (h : (store.createInside schema).Runs tx log (.ok ()) after) :
    ∃ create n second created inserted,
      create.CreatesTable schema.className (Entries.keys schema.columns) ∧
      Attempt create isBenignCreation n second (.ok created) ∧
      log = second ++ [.executed (store.catalog.insertSchema schema) inserted] := by
  obtain ⟨create, hok, hcreates⟩ := store.catalog.createTable_ok schema
  unfold createInside createJoinTables at h
  rw [hok, Work.lift_ok_bind, hn] at h
  obtain ⟨second, created, middle, rest, rfl, hfirst, hrest⟩ := Work.runs_bind_ok h
  obtain ⟨inserted, rfl⟩ := Work.runs_execute_ok hrest
  exact ⟨create, _, second, created, inserted, hcreates, Work.runs_absorbing_ok hfirst, rfl⟩

theorem runs_addColumn (hr : type.isRelation = false)
    (h : (store.addColumn className field type).Runs tx log (.ok ()) after) :
    ColumnAdded className field (log.filterMap Event.success?) (log.filterMap Event.failure?)
      (log.filterMap Event.answer?) := by
  obtain ⟨alter, hok, hadds⟩ := store.catalog.addColumn_ok className field hr
  unfold addColumn at h
  rw [hok, Work.lift_ok_bind] at h
  obtain ⟨first, applied, middle, rest, rfl, hfirst, hrest⟩ := Work.runs_bind_ok h
  have hattempt := Work.runs_absorbing_ok hfirst
  cases applied with
  | true =>
    obtain ⟨rfl, -⟩ := Work.runs_pure.1 hrest
    obtain ⟨hs, hf, ha⟩ := hattempt.effects_true
    rw [List.append_nil, hs, hf, ha]
    exact .added _ hadds
  | false =>
    obtain ⟨hs, ⟨e, hf⟩, ha⟩ := hattempt.effects_false
    obtain ⟨asked, rows, tx', rest, rfl, hasked, hmake⟩ := Work.runs_bind_ok hrest
    rw [Work.runs_query_ok hasked]
    cases hflag : existsFlag rows with
    | true =>
      rw [hflag] at hmake
      obtain ⟨rfl, -⟩ := Work.runs_pure.1 hmake
      simp only [List.filterMap_append, hs, hf, ha]
      exact .found _ hadds e hflag
    | false =>
      rw [hflag] at hmake
      obtain ⟨create, n, second, created, inserted, hcreates, hsecond, rfl⟩ :=
        store.runs_createInside (by simp [Schema.relationFields, hr]) hmake
      have hdeclared : Entries.find? [(field, type)] field = some type := if_pos rfl
      have hcolumn : create.CreatesTable className [field] := by
        refine hcreates.of_mem fun name hname => ?_
        rw [List.mem_singleton.1 hname]
        exact Entries.mem_keys_of_contains (Schema.contains_columns_of_declared hdeclared hr)
      have hinsert := Catalog.verb_insertSchema store.catalog
        { className, fields := [(field, type)] }
      cases created with
      | true =>
        obtain ⟨hs', hf', ha'⟩ := hsecond.effects_true
        simp only [List.filterMap_append, hs, hf, ha, hs', hf', ha']
        exact .created _ _ hadds e hflag hcolumn hinsert
      | false =>
        obtain ⟨hs', ⟨e', hf'⟩, ha'⟩ := hsecond.effects_false
        simp only [List.filterMap_append, hs, hf, ha, hs', hf', ha']
        exact .raced _ _ hadds e e' hflag hcolumn hinsert

theorem runs_declaring
    (h : (do
      let declared ← Work.query (store.catalog.selectDeclaredField className field)
      if declared.isEmpty then Work.execute (store.declareField className field type) :
        Work Unit).Runs tx log (.ok ()) after) :
    ∃ declared, log.filterMap Event.answer? =
        [(store.declaredQuestion className field, declared)] ∧
      log.filterMap Event.failure? = [] ∧
      log.filterMap Event.success? =
        if declared.isEmpty then [store.declaration className (field, type)] else [] := by
  obtain ⟨asked, declared, middle, rest, rfl, hasked, hrest⟩ := Work.runs_bind_ok h
  rw [Work.runs_query_ok hasked]
  refine ⟨declared, ?_⟩
  cases hempty : declared.isEmpty with
  | true =>
    rw [hempty] at hrest
    obtain ⟨count, rfl⟩ := Work.runs_execute_ok hrest
    exact ⟨rfl, rfl, rfl⟩
  | false =>
    rw [hempty] at hrest
    obtain ⟨rfl, -⟩ := Work.runs_pure.1 hrest
    exact ⟨rfl, rfl, rfl⟩

theorem runs_addField (hr : type.isRelation = false)
    (h : (store.addField className field type).Runs log (.ok ())) :
    log.getLast? = some ⟨.commit, .ok ()⟩ ∧ ∃ successes failures answers declared,
      ColumnAdded className field successes failures answers ∧
      log.filterMap Event.success? = successes ++
        (if declared.isEmpty then [store.declaration className (field, type)] else []) ∧
      log.filterMap Event.failure? = failures ∧
      log.filterMap Event.answer? =
        answers ++ [(store.declaredQuestion className field, declared)] := by
  rcases Transaction.runs_run h with ⟨e, -, hresult⟩ | ⟨body, outcome, tx, last, rfl, hwork, hend⟩
  · cases hresult
  cases hend
  unfold addFieldInside at hwork
  rw [hr] at hwork
  obtain ⟨added, _, middle, rest, rfl, hadded, hrest⟩ := Work.runs_bind_ok hwork
  obtain ⟨declared, ha, hf, hs⟩ := store.runs_declaring hrest
  have hlog {β : Type} (f : Event → Option β) (hb : f .begun = none)
      (hc : f ⟨.commit, .ok ()⟩ = none) :
      (Event.begun :: ((added ++ rest) ++ [⟨.commit, .ok ()⟩])).filterMap f =
        added.filterMap f ++ rest.filterMap f := by
    simp [hb, hc]
  refine ⟨by rw [List.getLast?_cons, List.getLast?_append]; rfl, _, _, _, declared,
    store.runs_addColumn hr hadded, ?_, ?_, ?_⟩
  · rw [hlog _ rfl rfl, hs]
  · rw [hlog _ rfl rfl, hf, List.append_nil]
  · rw [hlog _ rfl rfl, ha]

theorem ColumnAdded.assures_iff {successes later : List Statement}
    {failures : List (Statement × EngineError)} {answers : List (Statement × List Row)}
    {question : Statement} {rows : List Row}
    (h : ColumnAdded className field successes failures answers)
    (hl : ¬∃ statement ∈ later, statement.MakesColumn className field)
    (hq : question ≠ tableQuestion className) :
    ((∃ statement ∈ successes ++ later, statement.MakesColumn className field) ∨
      ∃ failure ∈ failures,
        failure.1.AddsColumn className field ∧ failure.2.root.code = some "42701") ↔
    ¬((∃ failure ∈ failures, failure.1.AddsColumn className field ∧
        failure.2.root.code ≠ some "42701") ∧
      ((∃ answer ∈ answers ++ [(question, rows)],
          answer.1 = tableQuestion className ∧ existsFlag answer.2) ∨
        ∃ failure ∈ failures, failure.1.CreatesTable className [field])) := by
  have hmark (n : Nat) : ¬(Statement.mark n).MakesColumn className field :=
    Statement.not_makesColumn (Statement.verb_mark n) (by decide) (by decide)
  have hundo (n : Nat) : ¬(Statement.undo n).MakesColumn className field :=
    Statement.not_makesColumn (Statement.verb_undo n) (by decide) (by decide)
  cases h with
  | added n hadds =>
    have hmakes : Statement.MakesColumn className field _ := .inl hadds
    simp [hmakes]
  | found n hadds e hflag =>
    simp [hmark, hundo, hadds, hl, hflag, or_and_right, exists_or]
  | @created n m alter create insert hadds e rows hflag hcreates hinsert =>
    have halter : ¬alter.CreatesTable className [field] :=
      Statement.not_createsTable hadds.verb (by decide)
    have hmakes : create.MakesColumn className field := .inr hcreates
    simp [hmakes, halter, hq, hflag]
  | @raced n m alter create insert hadds e e' rows hflag hcreates hinsert =>
    have hcreate : ¬create.AddsColumn className field :=
      Statement.not_addsColumn hcreates.verb (by decide)
    have hinserts : ¬insert.MakesColumn className field :=
      Statement.not_makesColumn hinsert (by decide) (by decide)
    simp [hmark, hundo, hinserts, hl, hadds, hcreate, hcreates, or_and_right, exists_or]

theorem verb_declaration (entry : String × FieldType) :
    (store.declaration className entry).verb = "UPDATE".toList :=
  store.catalog.verb_setSchemaPath className ["fields", entry.1] entry.2.toJson

theorem declaration_makesNone (rows : List Row) :
    ¬∃ statement ∈ (if rows.isEmpty then [store.declaration className (field, type)] else []),
      statement.MakesColumn className field := by
  rintro ⟨statement, hstatement, hmakes⟩
  split at hstatement
  · rw [List.mem_singleton.1 hstatement] at hmakes
    exact Statement.not_makesColumn (store.verb_declaration _) (by decide) (by decide) hmakes
  · cases hstatement

/-- Adding a field that is no relation only succeeds with a commit and with the
field declared. Its column is assured unless adding it failed for another reason
than that it is there and another request was found to have made the table. -/
theorem addField_assures_iff (hr : type.isRelation = false) (engine : Engine)
    (h : ((store.addField className field type).exchange engine).2 = .ok ()) :
    let log := ((store.addField className field type).exchange engine).1
    log.getLast? = some ⟨.commit, .ok ()⟩ ∧ store.DeclaresField className field type log ∧
      (AssuresColumn className field log ↔ ¬LosesColumn className field log) := by
  have hruns := Operation.exchange_runs (store.addField className field type) engine
  rw [h] at hruns
  obtain ⟨hlast, successes, failures, answers, declared, hadded, hs, hf, ha⟩ :=
    store.runs_addField hr hruns
  refine ⟨hlast, ?_, ?_⟩
  · unfold DeclaresField
    rw [hs, ha]
    cases declared with
    | nil => exact .inr (List.mem_append_right _ List.mem_cons_self)
    | cons row rows =>
      exact .inl ⟨_, List.mem_append_right _ List.mem_cons_self, rfl, List.cons_ne_nil _ _⟩
  · have hasked : store.declaredQuestion className field ≠
        tableQuestion className := fun hsame =>
      absurd (congrArg (fun statement => statement.params.length) hsame : 2 = 1) (by decide)
    unfold AssuresColumn LosesColumn
    rw [hs, hf, ha]
    simp only [← existsFlag_iff]
    exact hadded.assures_iff (store.declaration_makesNone declared) hasked

def noTable : EngineError where
  fault := { message := "relation does not exist", code := some "42P01" }

/-- An engine that has no table when a column is added to it, and has one when
it is asked next: another request has made it. -/
def lateTable : Engine := fun said call =>
  match call with
  | .executeInside _ => if said.length = 2 then .error noTable else .ok (0 : Nat)
  | .queryInside _ => .ok (if said.length = 4 then [[("exists", .bool true)]] else [])
  | .query _ => .ok []
  | .execute _ => .ok (0 : Nat)
  | .start | .commit | .rollback => .ok ()

theorem lateTable_characterized :
    let log := ((addField { now := ⟨0, 0⟩ } "Post" "title" .string).exchange lateTable).1
    FieldType.string.isRelation = false ∧
      ((addField { now := ⟨0, 0⟩ } "Post" "title" .string).exchange lateTable).2 = .ok () ∧
      (AssuresColumn "Post" "title" log ↔ ¬LosesColumn "Post" "title" log) :=
  ⟨rfl, rfl, (addField_assures_iff { now := ⟨0, 0⟩ } rfl lateTable rfl).2.2⟩

/-- The field is declared and committed, and no statement has made its column. -/
theorem lateTable_leaves_no_column :
    let store : Store := { now := ⟨0, 0⟩ }
    let exchange := (store.addField "Post" "title" .string).exchange lateTable
    exchange.2 = .ok () ∧ exchange.1.getLast? = some ⟨.commit, .ok ()⟩ ∧
      store.DeclaresField "Post" "title" .string exchange.1 ∧
      ¬AssuresColumn "Post" "title" exchange.1 := by
  intro store exchange
  have hs : exchange.1.filterMap Event.success? =
      [.mark 1, .undo 1, store.declaration "Post" ("title", .string)] := rfl
  refine ⟨rfl, rfl, .inr ?_, ?_⟩
  · rw [hs]
    simp
  · rintro (⟨statement, hsuccess, hmakes⟩ | ⟨failure, hfailure, -, hexists⟩)
    · rw [hs] at hsuccess
      simp only [List.mem_cons, List.not_mem_nil, or_false] at hsuccess
      rcases hsuccess with rfl | rfl | rfl
      · exact Statement.not_makesColumn (Statement.verb_mark 1) (by decide) (by decide) hmakes
      · exact Statement.not_makesColumn (Statement.verb_undo 1) (by decide) (by decide) hmakes
      · exact Statement.not_makesColumn (store.verb_declaration _) (by decide) (by decide) hmakes
    · obtain ⟨alter, hf⟩ : ∃ alter,
          exchange.1.filterMap Event.failure? = [(alter, noTable)] := ⟨_, rfl⟩
      rw [hf, List.mem_singleton] at hfailure
      rw [hfailure] at hexists
      exact absurd (show noTable.root.code = some "42701" from hexists) (by decide)

end Store
end DocSql
