import DocSql.Proofs.Schema.Document
import DocSql.Proofs.Store.AddedField
import DocSql.Proofs.Store.Clients

/-!
What creating a class leaves in the metadata, and what reading it back makes of
it. Of all the statements of a creation one adds a row, and the schema document
in it is read as the schema that the creation returns, whatever the engine
replied on the way.
-/
namespace DocSql

namespace Operation

variable {α β : Type}

theorem exchange_query {engine : Engine} {statement : Statement} {rows : List Row}
    (h : engine [] (.query statement) = .ok rows) (more : List Row → Operation α) :
    ((query statement >>= more).exchange engine).2 =
      (Session.run engine [⟨.query statement, .ok rows⟩] (more rows).run).2 := by
  unfold exchange
  change (Session.run engine [⟨.query statement, engine [] (.query statement)⟩] _).2 = _
  rw [h]
  rfl

end Operation

def addedRows (catalog : Catalog) (log : List Event) : List ClassRow :=
  (log.filterMap Event.success?).filterMap (Statement.row? catalog)

theorem addedRows_append (catalog : Catalog) (log more : List Event) :
    addedRows catalog (log ++ more) = addedRows catalog log ++ addedRows catalog more := by
  simp only [addedRows, List.filterMap_append]

namespace Statement

variable (catalog : Catalog)

theorem row?_insertSchema (schema : Schema) :
    (catalog.insertSchema schema).row? catalog = some (schema.className, schema.toJson) := by
  unfold row?
  rw [insertion?_insertSchema]
  rfl

theorem row?_of_verb {statement : Statement} (h : statement.verb ≠ "INSERT".toList) :
    statement.row? catalog = none := by
  have hbegins (rest : String) (hsql : statement.sql = "INSERT INTO " ++ rest) : False := by
    obtain ⟨sql, params⟩ := statement
    subst hsql
    exact h (verb_append _ _ (by decide))
  unfold row? insertion?
  simp only [String.append_assoc]
  split
  next =>
    rw [if_neg (hbegins _), if_neg (hbegins _)]
    rfl
  next => rfl

end Statement

namespace Work

variable {α β : Type} {catalog : Catalog} {rows more : List ClassRow} {statement : Statement}

/-- Work that adds these rows to the metadata whenever it succeeds. -/
def Adds (catalog : Catalog) (rows : List ClassRow) (w : Work α) : Prop :=
  ∀ tx log a after, w.Runs tx log (.ok a) after → addedRows catalog log = rows

theorem Adds.pure (a : α) : Adds catalog [] (pure a : Work α) := by
  intro tx log _ after h
  obtain ⟨rfl, -⟩ := runs_pure.1 h
  rfl

theorem Adds.bind {w : Work β} {f : β → Work α} (h : Adds catalog rows w)
    (hf : ∀ b, Adds catalog more (f b)) : Adds catalog (rows ++ more) (w >>= f) := by
  intro tx log a after hr
  obtain ⟨first, b, middle, rest, rfl, hfirst, hrest⟩ := runs_bind_ok hr
  rw [addedRows_append, h _ _ _ _ hfirst, hf b _ _ _ _ hrest]

theorem Adds.execute (catalog : Catalog) (statement : Statement) :
    Adds catalog (statement.row? catalog).toList (execute statement) := by
  intro tx log _ after h
  obtain ⟨count, rfl⟩ := runs_execute_ok h
  cases hrow : statement.row? catalog with
  | none => simp [addedRows, hrow]
  | some row => simp [addedRows, hrow]

/-- The savepoint of an attempt adds no row, so neither does an attempt at a
statement that adds none. -/
theorem Adds.absorbing (h : statement.verb ≠ "INSERT".toList) (benign : EngineError → Bool) :
    Adds catalog [] (absorbing statement benign) := by
  intro tx log applied after hr
  have hattempt := runs_absorbing_ok hr
  have hrow := Statement.row?_of_verb catalog h
  have hmark (n : Nat) : (Statement.mark n).row? catalog = none := rfl
  have hrelease (n : Nat) : (Statement.release n).row? catalog = none := rfl
  have hundo (n : Nat) : (Statement.undo n).row? catalog = none := rfl
  unfold addedRows
  cases applied with
  | true => simp [hattempt.effects_true.1, hrow, hmark, hrelease]
  | false => simp [hattempt.effects_false.1, hmark, hundo]

theorem Adds.forM {f : β → Work Unit} {items : List β} (h : ∀ b ∈ items, Adds catalog [] (f b)) :
    Adds catalog [] (items.forM f) := by
  induction items with
  | nil => exact .pure ()
  | cons b rest ih =>
    exact Adds.bind (h b List.mem_cons_self) fun _ =>
      ih fun c hc => h c (List.mem_cons_of_mem b hc)

end Work

namespace Store

variable (store : Store) (className : String) (schema : Schema)

theorem createInside_adds :
    Work.Adds store.catalog [(schema.className, schema.toJson)] (store.createInside schema) := by
  obtain ⟨create, hok, hcreates⟩ := store.catalog.createTable_ok schema
  unfold createInside createJoinTables
  rw [hok, Work.lift_ok_bind]
  have hcreate : create.verb ≠ "INSERT".toList := by
    rw [hcreates.verb]
    decide
  refine Work.Adds.bind (.absorbing hcreate _) fun _ => ?_
  have hinsert := Work.Adds.execute store.catalog (store.catalog.insertSchema schema)
  rw [Statement.row?_insertSchema] at hinsert
  refine Work.Adds.bind (.forM fun field _ => ?_) fun _ => hinsert
  have hjoin : (store.catalog.createJoinTable schema.className field.1).verb ≠ "INSERT".toList := by
    rw [Catalog.verb_createJoinTable]
    decide
  exact Work.Adds.bind (.absorbing hjoin _) fun _ => .pure ()

theorem createClass_adds {log : List Event} {created : Schema}
    (h : (store.createClass className schema).Runs log (.ok created)) :
    created = (schema.named className).toDocument ∧
      addedRows store.catalog log = [(className, (schema.named className).toJson)] := by
  unfold createClass at h
  rcases Operation.runs_bind.1 h with ⟨e, -, hresult⟩ | ⟨first, _, rest, rfl, hrun, hrest⟩
  · cases hresult
  obtain ⟨rfl, hresult⟩ := hrest
  cases hresult
  refine ⟨rfl, ?_⟩
  rcases Transaction.runs_run hrun with ⟨e, -, hresult⟩ | ⟨body, outcome, tx, last, rfl, hwork, hend⟩
  · cases hresult
  cases hend
  have hbody := store.createInside_adds (schema.named className) _ _ _ _ hwork
  rw [List.append_nil, ← List.singleton_append, addedRows_append, addedRows_append, hbody]
  rfl

theorem getClass_found {engine : Engine} {row : Row} {others : List Row} {document : Json}
    {stored : Schema} (hrow : Entries.find? row "schema" = some (.json document))
    (hs : storedSchema className document = .ok stored)
    (h : engine [] (.query (store.catalog.selectSchema className)) = .ok (row :: others)) :
    ((store.getClass className).exchange engine).2 = .ok stored.toDocument := by
  have hcolumn : row.jsonColumn "schema" = .ok (some document) := by
    unfold Row.jsonColumn
    rw [hrow]
  unfold getClass
  rw [Operation.exchange_query h]
  simp only [List.head?_cons, hcolumn, hs, Operation.lift_ok_bind]
  rfl

theorem storedSchema_toJson (h : schema.permissions ≠ some .null) :
    storedSchema className (schema.named className).toJson = .ok (schema.named className) := by
  have hread : Schema.ofJson? (schema.named className).toJson = some (schema.named className) :=
    Schema.ofJson?_toJson h
  unfold storedSchema
  rw [hread]
  exact congrArg Except.ok (ite_self _)

def documentQuestion : Statement where
  sql := "SELECT \"schema\" FROM " ++ Sql.identifier store.catalog.metadataTable ++
    " WHERE \"className\" = $1"
  params := [.text className]

/-- A schema that was read is read back from its document. The row that a
creation adds is that of its class, and reading the class from it gives the
schema that the creation returned. -/
theorem createClass_getClass {given : Json} {schema : Schema}
    (h : Schema.ofJson? given = some schema) :
    Schema.ofJson? schema.toJson = some schema ∧
    ∀ (engine : Engine) (created : Schema),
      ((store.createClass className schema).exchange engine).2 = .ok created →
      ∃ document, addedRows store.catalog ((store.createClass className schema).exchange engine).1 =
          [(className, document)] ∧
        ∀ (later : Engine) (row : Row) (others : List Row),
          Entries.find? row "schema" = some (.json document) →
          later [] (.query (store.documentQuestion className)) = .ok (row :: others) →
          ((store.getClass className).exchange later).2 = .ok created := by
  have hnull := Schema.permissions_of_ofJson? h
  refine ⟨Schema.ofJson?_toJson hnull, fun engine created hcreated => ?_⟩
  have hruns := (store.createClass className schema).exchange_runs engine
  rw [hcreated] at hruns
  obtain ⟨rfl, hrows⟩ := store.createClass_adds className schema hruns
  refine ⟨_, hrows, fun later row others hrow hlater => ?_⟩
  exact store.getClass_found className hrow (storedSchema_toJson className schema hnull) hlater

/-- A class whose owners come in lists of lists, with permissions and an index. -/
theorem owners_of_owners_kept :
    let store : Store := { now := ⟨0, 0⟩ }
    let owners := FieldType.arrayOf (.arrayOf (.pointer "_User"))
    let everybody := Json.obj [("*", .bool true)]
    let index : Entries Json := [("owners", .int 1)]
    let given := Json.obj [("classLevelPermissions", .obj [("find", everybody)]),
      ("fields", .obj [("owners", owners.toJson)]), ("indexes", .obj [("byOwners", .obj index)])]
    let schema : Schema := { fields := [("owners", owners)]
                             permissions := some (.obj [("find", everybody)])
                             indexes := some [("byOwners", index)] }
    let document := (schema.named "Team").toJson
    let created := (schema.named "Team").toDocument
    Schema.ofJson? given = some schema ∧ Schema.ofJson? schema.toJson = some schema ∧
      ((store.createClass "Team" schema).exchange (answering [])).2 = .ok created ∧
      addedRows store.catalog ((store.createClass "Team" schema).exchange (answering [])).1 =
        [("Team", document)] ∧
      ((store.getClass "Team").exchange (answering [[("schema", .json document)]])).2 =
        .ok created := by
  intro store owners everybody index given schema document created
  have hread : Schema.ofJson? given = some schema := rfl
  have hruns := (store.createClass "Team" schema).exchange_runs (answering [])
  have hok : ((store.createClass "Team" schema).exchange (answering [])).2.isOk := by decide +kernel
  have hcreated : ((store.createClass "Team" schema).exchange (answering [])).2 = .ok created := by
    cases hresult : ((store.createClass "Team" schema).exchange (answering [])).2 with
    | error e =>
      rw [hresult] at hok
      cases hok
    | ok made =>
      rw [hresult] at hruns
      exact congrArg Except.ok (store.createClass_adds "Team" schema hruns).1
  obtain ⟨hsame, hstored⟩ := createClass_getClass store "Team" hread
  obtain ⟨added, hrows, hget⟩ := hstored (answering []) created hcreated
  rw [hcreated] at hruns
  have hdocument := (store.createClass_adds "Team" schema hruns).2
  have hadded : document = added :=
    congrArg Prod.snd (List.cons.inj (hdocument.symm.trans hrows)).1
  have hrow : Entries.find? [("schema", Datum.json document)] "schema" = some (.json added) :=
    congrArg (fun value => some (Datum.json value)) hadded
  have hfound := hget (answering [[("schema", .json document)]]) [("schema", .json document)] [] hrow rfl
  exact ⟨hread, hsame, hcreated, hdocument, hfound⟩

end Store
end DocSql
