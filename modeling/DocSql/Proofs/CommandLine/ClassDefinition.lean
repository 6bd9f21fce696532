import DocSql.CommandLine.Run
import DocSql.Proofs.Session.Successes
import DocSql.Proofs.Store.Discipline

/-!
Printing the definition of a class and creating the class. The one lists statements
and the other sends them to an engine, each creation at a savepoint of its own;
without what begins and ends transactions and savepoints it is the same list. Main
statement: `Invocation.definition_creates`.
-/
namespace DocSql

def Statement.isSavepoint (statement : Statement) : Bool :=
  ["SAVEPOINT", "RELEASE", "ROLLBACK"].any fun word => statement.verb == word.toList

theorem Statement.isSavepoint_of_verb {statement : Statement} {word : List Char}
    (h : statement.verb = word)
    (hw : (["SAVEPOINT", "RELEASE", "ROLLBACK"].any fun other => word == other.toList) = false) :
    statement.isSavepoint = false := by
  unfold isSavepoint
  rwa [h]

def Call.isBoundary : Call → Bool
  | start | commit | rollback => true
  | executeInside statement => statement.isSavepoint
  | query _ | execute _ | queryInside _ => false

/-- The calls of an exchange without those that begin or end a transaction or a
part of one. -/
def substance (log : List Event) : List Call :=
  (log.map Event.call).filter fun call => !call.isBoundary

theorem substance_append (log more : List Event) :
    substance (log ++ more) = substance log ++ substance more := by
  unfold substance
  rw [List.map_append, List.filter_append]

theorem substance_executed {statement : Statement} (h : statement.isSavepoint = false)
    (count : Nat) : substance [.executed statement count] = [.executeInside statement] := by
  have hcall : (Call.executeInside statement).isBoundary = false := h
  simp [substance, Event.executed, hcall]

theorem substance_attempt {statement : Statement} (h : statement.isSavepoint = false)
    (n marked count released : Nat) :
    substance [.executed (.mark n) marked, .executed statement count,
      .executed (.release n) released] = [.executeInside statement] := by
  have hcall : (Call.executeInside statement).isBoundary = false := h
  have hmark : (Call.executeInside (.mark n)).isBoundary = true := by
    simp [Call.isBoundary, Statement.isSavepoint, Statement.verb_mark]
  have hrelease : (Call.executeInside (.release n)).isBoundary = true := by
    simp [Call.isBoundary, Statement.isSavepoint, Statement.verb_release]
  simp [substance, Event.executed, hcall, hmark, hrelease]

namespace Work

variable {α β : Type} {statements more : List Statement}

/-- Unless a statement fails, these are what the work executes, savepoints aside. -/
def AmountsTo (w : Work α) (statements : List Statement) : Prop :=
  ∀ tx, w.Passes tx fun log _ => substance log = statements.map .executeInside

theorem AmountsTo.pure (a : α) : AmountsTo (pure a) [] := fun _ => Passes.pure rfl

theorem AmountsTo.bind {w : Work β} {f : β → Work α} (h : w.AmountsTo statements)
    (hf : ∀ b, (f b).AmountsTo more) : (w >>= f).AmountsTo (statements ++ more) := by
  intro tx
  refine (h tx).bind fun log b middle hlog => (hf b middle).mono fun rest a hrest => ?_
  rw [substance_append, hlog, hrest, List.map_append]

theorem AmountsTo.execute {statement : Statement} (h : statement.isSavepoint = false) :
    (execute statement).AmountsTo [statement] := by
  intro tx
  refine Passes.execute.mono ?_
  rintro _ _ ⟨count, rfl⟩
  exact substance_executed h count

theorem AmountsTo.absorbing {statement : Statement} (h : statement.isSavepoint = false)
    (benign : EngineError → Bool) : (absorbing statement benign).AmountsTo [statement] := by
  intro tx
  refine Passes.absorbing.mono ?_
  rintro _ _ ⟨⟨marked, count, released, rfl⟩, -⟩
  exact substance_attempt h _ marked count released

theorem AmountsTo.forM {f : β → Work Unit} {statement : β → Statement} {items : List β}
    (h : ∀ b ∈ items, (f b).AmountsTo [statement b]) :
    (items.forM f).AmountsTo (items.map statement) := by
  induction items with
  | nil => exact .pure ()
  | cons b rest ih =>
    obtain ⟨hfirst, hrest⟩ := List.forall_mem_cons.1 h
    exact hfirst.bind fun _ => ih hrest

end Work

theorem Transaction.run_amountsTo {α : Type} {work : Work α} {statements : List Statement}
    (h : work.AmountsTo statements) : (Transaction.run work).Passes fun log _ =>
      substance log = statements.map .executeInside := by
  refine (Transaction.run_passes (h {})).mono ?_
  rintro _ a ⟨body, rfl, hbody⟩
  change substance (body ++ _) = _
  rw [substance_append, hbody]
  exact List.append_nil _

namespace Store

variable (store : Store)

theorem createInside_amountsTo {schema : Schema} {table : Statement}
    (h : store.catalog.createTable schema = .ok table) : (store.createInside schema).AmountsTo
      (table :: (store.catalog.joinTables schema ++ [store.catalog.insertSchema schema])) := by
  have htable : table.isSavepoint = false := by
    obtain ⟨_, hok, hcreates⟩ := store.catalog.createTable_ok schema
    rw [h] at hok
    cases hok
    exact Statement.isSavepoint_of_verb hcreates.verb (by decide)
  have hjoin (field : String) :
      (store.catalog.createJoinTable schema.className field).isSavepoint = false :=
    Statement.isSavepoint_of_verb (Catalog.verb_createJoinTable ..) (by decide)
  have hinsert : (store.catalog.insertSchema schema).isSavepoint = false :=
    Statement.isSavepoint_of_verb (Catalog.verb_insertSchema ..) (by decide)
  unfold createInside
  rw [h, Work.lift_ok_bind]
  refine (Work.AmountsTo.absorbing htable _).bind fun _ => ?_
  refine Work.AmountsTo.bind (.forM fun entry _ => ?_) fun _ => .execute hinsert
  exact (Work.AmountsTo.absorbing (hjoin entry.1) _).bind fun _ => .pure ()

theorem createClass_passes {schema : Schema} {table : Statement}
    (h : store.catalog.createTable schema = .ok table) :
    (store.createClass schema.className schema).Passes fun log created =>
      substance log = (table :: (store.catalog.joinTables schema ++
        [store.catalog.insertSchema schema])).map .executeInside ∧
      created = schema.toDocument := by
  unfold createClass
  refine (Transaction.run_amountsTo (store.createInside_amountsTo h)).bind fun log _ hlog => ?_
  refine .pure ⟨?_, rfl⟩
  rw [List.append_nil, hlog]

end Store

namespace CommandLine

def linesOf (statement : Statement) : List String :=
  match statement.params with
  | [] => [statement.sql]
  | params => [statement.sql, "  params: " ++ (Json.arr (params.map Datum.toJson)).text]

def textOf (lines : List String) : String := String.join (lines.map (· ++ "\n"))

theorem textOf_append (lines more : List String) :
    textOf (lines ++ more) = textOf lines ++ textOf more := by
  unfold textOf
  rw [List.map_append, String.join_append]

theorem printed_eq (statement : Statement) : printed statement = textOf (linesOf statement) := by
  obtain ⟨sql, params⟩ := statement
  unfold printed linesOf textOf
  cases params with
  | nil => simp [String.join]
  | cons param rest => simp [String.join, String.append_assoc]

def metadataDefinition (settings : Settings) : Statement where
  sql := "CREATE TABLE IF NOT EXISTS " ++ Sql.identifier settings.metadataTable ++
    " (\"className\" " ++ ("varchar(" ++ toString settings.idWidth ++ ")") ++
    ", \"schema\" jsonb, \"isParseClass\" bool, PRIMARY KEY (\"className\"))"

theorem join_printed (statements : List Statement) :
    String.join (statements.map printed) = textOf (statements.flatMap linesOf) := by
  induction statements with
  | nil => rfl
  | cons statement rest ih =>
    rw [List.map_cons, String.join_cons, ih, printed_eq, List.flatMap_cons, textOf_append]

/-- For every schema and all settings, what is printed as the definition of a class
is the statement that creates the metadata table, and then the statements that
creating the class under these settings runs, with their parameters and in their
order, where the engine refuses nothing. -/
theorem Invocation.definition_creates (invocation : Invocation)
    (h : invocation.command = .definition) (around : Surroundings) (settings : Settings)
    (schema : Schema) (now : Timestamp) {engine : Engine} (he : engine.Succeeds) :
    let store : Store := { settings, now }
    let creating := (store.createClass schema.className schema).exchange engine
    ∃ statements, substance creating.1 = statements.map .executeInside ∧
      creating.2 = .ok schema.toDocument ∧
      invocation.statementsOf around settings schema =
        .ok (metadataDefinition settings :: statements) ∧
      (invocation.settings around = .ok settings → invocation.schema around = .ok schema →
        invocation.report around = {
          code := 0
          output := textOf ((metadataDefinition settings :: statements).flatMap linesOf) }) := by
  intro store creating
  obtain ⟨table, htable, -⟩ := store.catalog.createTable_ok schema
  obtain ⟨log, _, hrun, hlog, rfl⟩ := (store.createClass_passes htable).run (he.after [])
  have hstatements : invocation.statementsOf around settings schema =
      .ok (metadataDefinition settings ::
        (table :: (store.catalog.joinTables schema ++ [store.catalog.insertSchema schema]))) := by
    unfold Invocation.statementsOf Catalog.classDefinition
    rw [h]
    change compile (settings.catalog.createTable schema >>= _) = _
    rw [show settings.catalog.createTable schema = .ok table from htable]
    rfl
  refine ⟨_, (congrArg (fun made => substance made.1) hrun).trans hlog, congrArg Prod.snd hrun,
    hstatements, fun hsettings hschema => ?_⟩
  have hall : invocation.statements around = invocation.statementsOf around settings schema := by
    unfold Invocation.statements
    rw [hsettings, hschema]
    rfl
  unfold Invocation.report
  rw [hall, hstatements, ← join_printed]

/-- A class with a relation under settings of its own. -/
theorem team_definition_creates :
    let invocation : Invocation :=
      { settingsDir := ".", command := .definition, values := [("schema", "team.json")] }
    let around : Surroundings := {
      file := fun path =>
        if path = "team.json" then .ok ("\x7b\"className\":\"Team\",\"fields\":" ++
          "\x7b\"members\":\x7b\"type\":\"Relation\",\"targetClass\":\"Person\"\x7d\x7d\x7d")
        else if path = "./pgdoc.toml" then .ok "schema_table = \"classes\"\njoin_id_width = 36\n"
        else .error .missing
      environment := []
      now := ⟨0, 0⟩ }
    let settings : Settings := { metadataTable := "classes", idWidth := 36 }
    let creating (schema : Schema) :=
      (Store.createClass { settings, now := ⟨0, 0⟩ } schema.className schema).exchange
        (Store.answering [])
    let lines := [
      "CREATE TABLE IF NOT EXISTS \"classes\" (\"className\" varchar(36), \"schema\" jsonb, " ++
        "\"isParseClass\" bool, PRIMARY KEY (\"className\"))",
      "CREATE TABLE IF NOT EXISTS \"Team\" (\"_rperm\" text[], \"_wperm\" text[], " ++
        "\"createdAt\" timestamp, \"objectId\" varchar(36), PRIMARY KEY (\"objectId\"), " ++
        "\"updatedAt\" timestamp)",
      "CREATE TABLE IF NOT EXISTS \"_Join:members:Team\" (\"relatedId\" varchar(36), " ++
        "\"owningId\" varchar(36), PRIMARY KEY (\"relatedId\", \"owningId\"))",
      "INSERT INTO \"classes\" (\"className\", \"schema\", \"isParseClass\") " ++
        "VALUES ($1, $2::jsonb, true) ON CONFLICT (\"className\") DO NOTHING",
      "  params: [\"Team\",\x7b\"className\":\"Team\",\"fields\":\x7b\"members\":" ++
        "\x7b\"targetClass\":\"Person\",\"type\":\"Relation\"\x7d\x7d\x7d]"]
    ∃ schema statements, (schema.className, Entries.keys schema.relationFields) =
        ("Team", ["members"]) ∧
      substance (creating schema).1 = statements.map .executeInside ∧
      (creating schema).2 = .ok schema.toDocument ∧
      invocation.report around = {
        code := 0
        output := textOf ((metadataDefinition settings :: statements).flatMap linesOf) } ∧
      (invocation.report around).output = textOf lines := by
  intro invocation around settings creating lines
  have houtput : (invocation.report around).output = textOf lines := by decide +kernel
  have hsettings : invocation.settings around = .ok settings := by decide +kernel
  have hread : (invocation.schema around).map (fun schema =>
      (schema.className, Entries.keys schema.relationFields)) = .ok ("Team", ["members"]) := by
    decide +kernel
  cases hschema : invocation.schema around with
  | error failure =>
    rw [hschema] at hread
    cases hread
  | ok schema =>
    rw [hschema] at hread
    obtain ⟨statements, hsubstance, hcreated, -, hreport⟩ := invocation.definition_creates rfl
      around settings schema ⟨0, 0⟩ (Store.answering_succeeds [])
    exact ⟨schema, statements, Except.ok.inj hread, hsubstance, hcreated,
      hreport hsettings hschema, houtput⟩

end CommandLine
end DocSql
