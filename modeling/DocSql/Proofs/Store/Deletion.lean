import DocSql.Proofs.Outcome
import DocSql.Proofs.Session.Successes
import DocSql.Store.Classes

/-!
Dropping all classes. Every metadata row is read before anything is dropped, so a
row that cannot be read leaves all tables as they are; otherwise the tables that
the rows stand for go in one transaction. Main statement:
`Store.deleteAllClasses_exact`.
-/
namespace DocSql

namespace Row

variable {row : Row} {column : String} {value : Json} {e : Error}

def IsBlank (row : Row) (column : String) : Prop :=
  ∀ held, Entries.find? row column = some held → held = .null

/-- The column holds JSON, as such or as its text. -/
inductive Holds (row : Row) (column : String) : Json → Prop
  | json {value : Json} (h : Entries.find? row column = some (.json value)) : Holds row column value
  | text {text : String} {value : Json} (h : Entries.find? row column = some (.text text))
    (ht : Json.ofText? text = some value) : Holds row column value

/-- The column holds something that is no JSON. What is wrong with a text is told
in the words of the JSON reader. -/
inductive IsGarbled (row : Row) (column : String) : Error → Prop
  | text {text : String} (detail : String) (h : Entries.find? row column = some (.text text))
    (ht : Json.ofText? text = none) : IsGarbled row column (.json detail)
  | other {held : Datum} (h : Entries.find? row column = some held) (hn : held ≠ .null)
    (ht : ∀ text, held ≠ .text text) (hj : ∀ value, held ≠ .json value) :
    IsGarbled row column
      (.internal ("column '" ++ column ++ "' holds " ++ held.diagnostic ++ ", expected json"))

theorem IsBlank.jsonColumn (h : row.IsBlank column) : row.jsonColumn column = .ok none := by
  unfold Row.jsonColumn
  cases hfound : Entries.find? row column with
  | none => rfl
  | some held =>
    rw [h held hfound]

theorem Holds.jsonColumn (h : row.Holds column value) :
    row.jsonColumn column = .ok (some value) := by
  unfold Row.jsonColumn
  cases h with
  | json h => rw [h]
  | text h ht =>
    rw [h]
    simp only [Datum.readJson, ht]
    rfl

theorem readJson_of_none {text : String} (h : Json.ofText? text = none) :
    ∃ detail, Datum.readJson text = .error (.json detail) := by
  unfold Datum.readJson
  rw [h]
  exact ⟨_, rfl⟩

theorem IsGarbled.jsonColumn (h : row.IsGarbled column e) :
    ∃ e, row.IsGarbled column e ∧ row.jsonColumn column = .error e := by
  cases h with
  | text _ h ht =>
    obtain ⟨detail, hread⟩ := readJson_of_none ht
    refine ⟨.json detail, .text detail h ht, ?_⟩
    unfold Row.jsonColumn
    rw [h]
    simp only [hread]
    rfl
  | @other held h hn ht hj =>
    refine ⟨_, .other h hn ht hj, ?_⟩
    unfold Row.jsonColumn
    rw [h]
    cases held with
    | null => cases hn rfl
    | text s => cases ht s rfl
    | json value => cases hj value rfl
    | _ => rfl

theorem jsonColumn_cases (row : Row) (column : String) :
    row.IsBlank column ∨ (∃ value, row.Holds column value) ∨ ∃ e, row.IsGarbled column e := by
  cases hfound : Entries.find? row column with
  | none => exact .inl fun held h => by rw [hfound] at h; cases h
  | some held =>
    cases held with
    | null => exact .inl fun held h => by rw [hfound] at h; exact (Option.some.inj h).symm
    | json value => exact .inr (.inl ⟨value, .json hfound⟩)
    | text text =>
      cases ht : Json.ofText? text with
      | none => exact .inr (.inr ⟨_, .text "" hfound ht⟩)
      | some value => exact .inr (.inl ⟨value, .text hfound ht⟩)
    | _ => exact .inr (.inr ⟨_, .other hfound nofun nofun nofun⟩)

/-- A row has this schema, or has none. -/
inductive Stores (row : Row) : Option Schema → Prop
  | nothing (h : row.IsBlank "schema") : Stores row none
  | schema {value : Json} {schema : Schema} (h : row.Holds "schema" value)
    (hs : Schema.ofJson? value = some schema) : Stores row (some schema)

theorem Stores.not_isBlank {schema : Schema} (h : row.Stores (some schema)) :
    ¬row.IsBlank "schema" := by
  intro hblank
  cases h with
  | schema hvalue _ =>
    have hcolumn := hvalue.jsonColumn
    rw [hblank.jsonColumn] at hcolumn
    cases hcolumn

theorem Stores.eq_of_holds {schema : Schema} (h : row.Stores (some schema))
    (hv : row.Holds "schema" value) : Schema.ofJson? value = some schema := by
  cases h with
  | schema hvalue hs =>
    have hcolumn := hvalue.jsonColumn
    rw [hv.jsonColumn] at hcolumn
    cases hcolumn
    exact hs

inductive IsUnreadable (row : Row) : Error → Prop
  | garbled {className : String} {e : Error} (hc : row.textColumn? "className" = some className)
    (h : row.IsGarbled "schema" e) : IsUnreadable row e
  | foreign {className : String} {value : Json} (hc : row.textColumn? "className" = some className)
    (detail : String) (h : row.Holds "schema" value) (hs : Schema.ofJson? value = none) :
    IsUnreadable row (.invalidSchema ("class '" ++ className ++ "': " ++ detail))

/-- A row with the name of a class stands for the table of the class, and for the
join tables of the relations in its schema. -/
inductive StandsFor (row : Row) : String → Prop
  | ofClass {className : String} (hc : row.textColumn? "className" = some className) :
    StandsFor row className
  | join {className field target : String} {schema : Schema}
    (hc : row.textColumn? "className" = some className) (hs : row.Stores (some schema))
    (hf : (field, .relation target) ∈ schema.fields) :
    StandsFor row ("_Join:" ++ field ++ ":" ++ className)

end Row

namespace Store

open Sql (identifier)

variable {row : Row} {className table : String} {value : Json} {schema : Schema} {e : Error}
  {rows : List Row} {tables : List String}

theorem storedSchema_of_some (className : String) (h : Schema.ofJson? value = some schema) :
    ∃ stored, storedSchema className value = .ok stored ∧
      stored.relationFields = schema.relationFields := by
  unfold storedSchema
  rw [h]
  refine ⟨_, rfl, ?_⟩
  split
  · rfl
  · rfl

theorem storedSchema_of_none (className : String) (h : Schema.ofJson? value = none) :
    ∃ detail, storedSchema className value =
      .error (.invalidSchema ("class '" ++ className ++ "': " ++ detail)) := by
  refine ⟨"not a schema document", ?_⟩
  unfold storedSchema
  rw [h]
  simp only [String.append_assoc]
  rfl

theorem tablesOfRow_unnamed (h : row.textColumn? "className" = none) :
    tablesOfRow row = .ok [] := by
  unfold tablesOfRow
  rw [h]
  rfl

theorem tablesOfRow_unreadable (h : row.IsUnreadable e) :
    ∃ e, row.IsUnreadable e ∧ tablesOfRow row = .error e := by
  unfold tablesOfRow
  cases h with
  | garbled hc h =>
    obtain ⟨e, hgarbled, hcolumn⟩ := h.jsonColumn
    refine ⟨e, .garbled hc hgarbled, ?_⟩
    rw [hc]
    simp only [hcolumn]
    rfl
  | @foreign className value hc _ h hs =>
    obtain ⟨detail, hstored⟩ := storedSchema_of_none className hs
    refine ⟨_, .foreign hc detail h hs, ?_⟩
    rw [hc]
    simp only [h.jsonColumn]
    change (storedSchema className value >>= fun _ => _) = _
    rw [hstored]
    rfl

theorem not_isUnreadable_of_ok (h : tablesOfRow row = .ok tables) (e : Error) :
    ¬row.IsUnreadable e := by
  intro hunreadable
  obtain ⟨_, -, hfails⟩ := tablesOfRow_unreadable hunreadable
  rw [h] at hfails
  cases hfails

theorem tablesOfRow_blank (hc : row.textColumn? "className" = some className)
    (h : row.IsBlank "schema") : tablesOfRow row = .ok [className] := by
  unfold tablesOfRow
  rw [hc]
  simp only [h.jsonColumn]
  rfl

theorem tablesOfRow_schema (hc : row.textColumn? "className" = some className)
    (h : row.Holds "schema" value) (hs : Schema.ofJson? value = some schema) :
    tablesOfRow row = .ok ((Entries.keys schema.relationFields).map (Schema.joinTable className) ++
      [className]) := by
  obtain ⟨stored, hstored, hrelations⟩ := storedSchema_of_some className hs
  unfold tablesOfRow
  rw [hc]
  simp only [h.jsonColumn]
  change (storedSchema className value >>= fun _ => _) = _
  rw [hstored, ← hrelations, Entries.keys, List.map_map]
  rfl

theorem tablesOfRow_cases (row : Row) : (∃ e, row.IsUnreadable e) ∨
    ∃ tables, tablesOfRow row = .ok tables ∧ ∀ table, table ∈ tables ↔ row.StandsFor table := by
  cases hc : row.textColumn? "className" with
  | none =>
    refine .inr ⟨[], tablesOfRow_unnamed hc, fun table => ⟨nofun, fun h => ?_⟩⟩
    cases h with
    | ofClass hc' | join hc' _ _ =>
      rw [hc] at hc'
      cases hc'
  | some className =>
    have hclass {other : String} (h : row.textColumn? "className" = some other) :
        other = className := Option.some.inj (h.symm.trans hc)
    rcases row.jsonColumn_cases "schema" with hblank | ⟨value, hvalue⟩ | ⟨e, hgarbled⟩
    · refine .inr ⟨_, tablesOfRow_blank hc hblank, fun table => ?_⟩
      rw [List.mem_singleton]
      constructor
      · rintro rfl
        exact .ofClass hc
      · rintro (hc' | ⟨_, hs, _⟩)
        · exact hclass hc'
        · exact absurd hblank hs.not_isBlank
    · cases hs : Schema.ofJson? value with
      | none => exact .inl ⟨_, .foreign hc "" hvalue hs⟩
      | some schema =>
        refine .inr ⟨_, tablesOfRow_schema hc hvalue hs, fun table => ?_⟩
        rw [List.mem_append, List.mem_singleton, List.mem_map]
        constructor
        · rintro (⟨field, hfield, rfl⟩ | rfl)
          · obtain ⟨⟨_, type⟩, hentry, rfl⟩ := List.mem_map.1 hfield
            obtain ⟨hf, hr⟩ := List.mem_filter.1 hentry
            cases type with
            | relation target => exact .join hc (.schema hvalue hs) hf
            | _ => cases hr
          · exact .ofClass hc
        · rintro (hc' | ⟨hc', hs', hf⟩)
          · exact .inr (hclass hc')
          · -- Both schemas are read from the one value of the column.
            have hschema := hs'.eq_of_holds hvalue
            rw [hs] at hschema
            cases hschema
            rw [hclass hc']
            exact .inl ⟨_, List.mem_map_of_mem (List.mem_filter.2 ⟨hf, rfl⟩), rfl⟩
    · exact .inl ⟨e, .garbled hc hgarbled⟩

theorem tablesOfRows_ok (h : tablesOfRows rows = .ok tables) :
    (∀ row ∈ rows, ∀ e, ¬row.IsUnreadable e) ∧
      ∀ table, table ∈ tables ↔ ∃ row ∈ rows, row.StandsFor table := by
  obtain ⟨parts, hparts, hflat⟩ := bind_eq_ok.1 h
  obtain rfl : parts.flatten = tables := Except.ok.inj hflat
  have hall := mapM_eq_ok.1 hparts
  clear h hparts hflat
  induction hall with
  | nil => exact ⟨nofun, by simp⟩
  | @cons row part rest parts hrow _ ih =>
    obtain ⟨hreadable, hmem⟩ := ih
    have hown := not_isUnreadable_of_ok hrow
    rcases tablesOfRow_cases row with ⟨e, hunreadable⟩ | ⟨own, hsame, hstands⟩
    · cases hown e hunreadable
    · rw [hsame] at hrow
      cases hrow
      refine ⟨List.forall_mem_cons.2 ⟨hown, hreadable⟩, fun table => ?_⟩
      rw [List.flatten_cons, List.mem_append, hstands, hmem]
      simp

theorem tablesOfRows_error (h : tablesOfRows rows = .error e) :
    ∃ before first after, rows = before ++ first :: after ∧
      (∀ other ∈ before, ∀ e, ¬other.IsUnreadable e) ∧ first.IsUnreadable e := by
  rcases bind_eq_error.1 h with hrows | ⟨_, _, hflat⟩
  · obtain ⟨before, first, after, rfl, hbefore, hfirst⟩ := mapM_eq_error.1 hrows
    refine ⟨before, first, after, rfl, fun other hother => ?_, ?_⟩
    · obtain ⟨tables, htables⟩ := hbefore other hother
      exact not_isUnreadable_of_ok htables
    · rcases tablesOfRow_cases first with ⟨_, hunreadable⟩ | ⟨tables, htables, -⟩
      · obtain ⟨e', hmade, hfails⟩ := tablesOfRow_unreadable hunreadable
        rw [hfirst] at hfails
        cases hfails
        exact hmade
      · rw [htables] at hfirst
        cases hfirst
  · cases hflat

variable (store : Store)

/-- The tables that are known: the metadata table, those of the system, and those
that the rows of the metadata stand for. -/
inductive IsKnown (rows : List Row) : String → Prop
  | metadata : IsKnown rows store.catalog.metadataTable
  | system {table : String} (h : table ∈ ["_PushStatus", "_JobStatus", "_JobSchedule", "_Hooks",
    "_GlobalConfig", "_GraphQLConfig", "_Audience", "_Idempotency"]) : IsKnown rows table
  | ofRow {row : Row} {table : String} (h : row ∈ rows) (hs : row.StandsFor table) :
    IsKnown rows table

def rowsQuestion : Statement where
  sql := "SELECT \"className\", \"schema\" FROM " ++ identifier store.catalog.metadataTable

/-- The first reply of the engine is these rows of the metadata, or that there is
no metadata table, which is as good as no rows. -/
inductive Finds (engine : Engine) : List Row → Prop
  | rows {rows : List Row} (h : engine [] (.query store.rowsQuestion) = .ok rows) :
    Finds engine rows
  | missing {e : EngineError} (h : engine [] (.query store.rowsQuestion) = .error e)
    (he : e.root.code = some "42P01") : Finds engine []

def Drops (tables : List String) (log : List Event) : Prop :=
  List.Forall₂ (fun table event => ∃ count,
    event = .executed { sql := "DROP TABLE IF EXISTS " ++ identifier table } count) tables log

def dropAll (tables : List String) : Work Unit :=
  tables.forM fun table => Work.execute (Catalog.dropTable table)

theorem runs_dropAll {tx after : Transaction} {log : List Event}
    (h : (dropAll tables).Runs tx log (.ok ()) after) : Drops tables log := by
  induction tables generalizing tx log with
  | nil =>
    obtain ⟨rfl, -⟩ := Work.runs_pure.1 h
    exact .nil
  | cons table rest ih =>
    obtain ⟨first, _, middle, more, rfl, hfirst, hmore⟩ := Work.runs_bind_ok h
    obtain ⟨count, rfl⟩ := Work.runs_execute_ok hfirst
    exact .cons ⟨count, rfl⟩ (ih hmore)

theorem run_dropAll {log : List Event} (h : (Transaction.run (dropAll tables)).Runs log (.ok ())) :
    ∃ drops, log = .begun :: (drops ++ [⟨.commit, .ok ()⟩]) ∧ Drops tables drops := by
  rcases Transaction.runs_run h with ⟨e, -, hresult⟩ | ⟨drops, outcome, tx, last, rfl, hwork, hend⟩
  · cases hresult
  · cases hend with
    | committed => exact ⟨drops, rfl, runs_dropAll hwork⟩

def asking (engine : Engine) : Event :=
  ⟨.query store.rowsQuestion, engine [] (.query store.rowsQuestion)⟩

theorem Finds.run {engine : Engine} (h : store.Finds engine rows) :
    Session.run engine [] (Operation.queryOr store.catalog.selectSchemas EngineError.isMissingTable
      [] pure).run = ([store.asking engine], .ok rows) := by
  have hquestion : store.catalog.selectSchemas = store.rowsQuestion := rfl
  rw [hquestion]
  refine Operation.run_request_bind engine [] _ _ ?_
  cases h with
  | rows h =>
    rw [h]
    rfl
  | @missing e h he =>
    have hmissing : e.isMissingTable = true := by
      simp [EngineError.isMissingTable, EngineError.hasCode, he, SqlState.undefinedTable]
    rw [h]
    simp only [hmissing, if_true]
    rfl

theorem Finds.exchange {engine : Engine} (h : store.Finds engine rows) :
    store.deleteAllClasses.exchange engine =
      let rest := Session.run engine [store.asking engine] (do
        let tables ← liftM (tablesOfRows rows)
        Transaction.run (dropAll (store.catalog.metadataTable :: Catalog.systemTables ++ tables)) :
          Operation Unit).run
      (store.asking engine :: rest.1, rest.2) := by
  unfold deleteAllClasses Operation.exchange
  rw [Operation.run_bind_ok h.run]
  rfl

theorem mem_known (h : tablesOfRows rows = .ok tables) (table : String) :
    table ∈ store.catalog.metadataTable :: Catalog.systemTables ++ tables ↔
      store.IsKnown rows table := by
  rw [List.cons_append, List.mem_cons, List.mem_append, (tablesOfRows_ok h).2]
  constructor
  · rintro (rfl | hsystem | ⟨row, hrow, hstands⟩)
    · exact .metadata
    · exact .system hsystem
    · exact .ofRow hrow hstands
  · rintro (_ | hsystem | ⟨hrow, hstands⟩)
    · exact .inl rfl
    · exact .inr (.inl hsystem)
    · exact .inr (.inr ⟨_, hrow, hstands⟩)

/-- Whatever rows the metadata has: a success has read all of them and dropped the
known tables and no others, in one committed transaction, and it comes where the
engine refuses nothing; if there is a row that cannot be read, the first of them fails
the operation before anything is dropped. -/
theorem deleteAllClasses_exact {engine : Engine} (h : store.Finds engine rows) :
    let deleting := store.deleteAllClasses.exchange engine
    (deleting.2 = .ok () → (∀ row ∈ rows, ∀ e, ¬row.IsUnreadable e) ∧
      ∃ tables drops, deleting.1 =
          store.asking engine :: .begun :: (drops ++ [⟨.commit, .ok ()⟩]) ∧
        Drops tables drops ∧ ∀ table, table ∈ tables ↔ store.IsKnown rows table) ∧
    ((∀ row ∈ rows, ∀ e, ¬row.IsUnreadable e) → engine.SucceedsAfter [store.asking engine] →
      deleting.2 = .ok ()) ∧
    ∀ row ∈ rows, ∀ e, row.IsUnreadable e → ∃ before first after e',
      rows = before ++ first :: after ∧ (∀ other ∈ before, ∀ e, ¬other.IsUnreadable e) ∧
      first.IsUnreadable e' ∧ deleting = ([store.asking engine], .error e') := by
  intro deleting
  have hdeleting : deleting = _ := h.exchange
  cases htables : tablesOfRows rows with
  | error e =>
    obtain ⟨before, first, after, hrows, hbefore, hfirst⟩ := tablesOfRows_error htables
    rw [Operation.lift_error_bind htables] at hdeleting
    refine ⟨fun hok => ?_, fun hreadable _ => ?_, fun _ _ _ _ => ?_⟩
    · rw [hdeleting] at hok
      cases hok
    · cases hreadable first (by simp [hrows]) e hfirst
    · exact ⟨before, first, after, e, hrows, hbefore, hfirst, hdeleting⟩
  | ok tables =>
    have hreadable := (tablesOfRows_ok htables).1
    rw [htables, Operation.lift_ok_bind] at hdeleting
    refine ⟨fun hok => ?_, fun _ hsucceeds => ?_, fun row hrow e hunreadable => ?_⟩
    · rw [hdeleting] at hok ⊢
      obtain ⟨drops, hlog, hdrops⟩ := run_dropAll (hok ▸ Session.run_runs engine _ _)
      exact ⟨hreadable, _, drops, congrArg (List.cons _) hlog, hdrops, store.mem_known htables⟩
    · rw [hdeleting]
      exact (Transaction.run_does (Work.Does.forM Catalog.dropTable _) _ _
        (Session.run_runs engine _ _) (Session.run_succeedsAfter hsucceeds _)).2
    · cases hreadable row hrow e hunreadable

/-- Classes with relations, whose schemas are stored as JSON and as text, and a row
without a class; and a class with a number in the place of its schema. -/
theorem teams_deleted :
    let store : Store := { now := ⟨0, 0⟩ }
    let team : Row := [("className", .text "Team"), ("schema", .json (.obj [("fields",
      .obj [("members", .obj [("targetClass", .str "Person"), ("type", .str "Relation")])])]))]
    let person : Row := [("className", .text "Person"), ("schema",
      .text ("\x7b\"fields\":\x7b\"cars\":" ++
        "\x7b\"type\":\"Relation\",\"targetClass\":\"Car\"\x7d\x7d\x7d"))]
    let stray : Row := [("schema", .int 1)]
    let car : Row := [("className", .text "Car"), ("schema", .int 1)]
    let deleting (rows : List Row) := store.deleteAllClasses.exchange (answering rows)
    let known := ["_SCHEMA", "_PushStatus", "_JobStatus", "_JobSchedule", "_Hooks", "_GlobalConfig",
      "_GraphQLConfig", "_Audience", "_Idempotency", "_Join:members:Team", "Team",
      "_Join:cars:Person", "Person"]
    (∃ tables drops, (deleting [team, person, stray]).1 =
        store.asking (answering [team, person, stray]) :: .begun :: (drops ++ [⟨.commit, .ok ()⟩]) ∧
      Drops tables drops ∧ ∀ table, table ∈ tables ↔ table ∈ known) ∧
    ∃ e, deleting [team, car, person] =
      ([store.asking (answering [team, car, person])], .error e) := by
  intro store team person stray car deleting known
  have hrows : tablesOfRows [team, person, stray] =
      .ok ["_Join:members:Team", "Team", "_Join:cars:Person", "Person"] := by decide +kernel
  have hfinds (rows : List Row) : store.Finds (answering rows) rows := .rows rfl
  obtain ⟨hdrops, hsuccess, -⟩ := store.deleteAllClasses_exact (hfinds [team, person, stray])
  have hok := hsuccess (tablesOfRows_ok hrows).1 ((answering_succeeds _).after _)
  have hheld : Entries.find? car "schema" = some (.int 1) := rfl
  have hcar : car.IsUnreadable (.internal "column 'schema' holds Int(1), expected json") :=
    .garbled rfl (.other hheld nofun nofun nofun)
  obtain ⟨-, -, hfails⟩ := store.deleteAllClasses_exact (hfinds [team, car, person])
  obtain ⟨_, _, _, e, -, -, -, hfailed⟩ := hfails car (by simp) _ hcar
  obtain ⟨-, tables, drops, hlog, hdropped, htables⟩ := hdrops hok
  refine ⟨⟨tables, drops, hlog, hdropped, fun table => ?_⟩, e, hfailed⟩
  exact (htables table).trans (store.mem_known hrows table).symm

end Store
end DocSql
