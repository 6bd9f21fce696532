import DocSql.Proofs.Session.Settled
import DocSql.Proofs.Statement.Table
import DocSql.Store.Classes
import DocSql.Store.Indexes

/-!
The discipline of the operations that change classes and indexes. Main
statement: under every behaviour of the engine each of them settles the
transaction that it begins.
-/
namespace DocSql

namespace Statement

theorem CreatesTable.verb {className : String} {fields : List String} {statement : Statement}
    (h : statement.CreatesTable className fields) : statement.verb = "CREATE".toList := by
  obtain ⟨sql, params⟩ := statement
  obtain ⟨definitions, rfl, -⟩ := h
  simp only [String.append_assoc]
  exact verb_append _ _ (by decide)

theorem AddsColumn.verb {className field : String} {statement : Statement}
    (h : statement.AddsColumn className field) : statement.verb = "ALTER".toList := by
  obtain ⟨sql, params⟩ := statement
  obtain ⟨type, rfl⟩ := h
  simp only [String.append_assoc]
  exact verb_append _ _ (by decide)

end Statement

namespace Catalog

variable (catalog : Catalog) (className : String)

theorem verb_createJoinTable (field : String) :
    (catalog.createJoinTable className field).verb = "CREATE".toList := by
  unfold createJoinTable
  simp only [String.append_assoc]
  exact Statement.verb_append _ _ (by decide)

theorem verb_insertSchema (schema : Schema) :
    (catalog.insertSchema schema).verb = "INSERT".toList := by
  unfold insertSchema
  simp only [String.append_assoc]
  exact Statement.verb_append _ _ (by decide)

theorem verb_updateSchema (schema : Schema) :
    (catalog.updateSchema schema).verb = "UPDATE".toList := by
  unfold updateSchema
  simp only [String.append_assoc]
  exact Statement.verb_append _ _ (by decide)

theorem verb_setSchemaPath (path : List String) (value : Json) :
    (catalog.setSchemaPath className path value).verb = "UPDATE".toList := by
  unfold setSchemaPath
  simp only [String.append_assoc]
  exact Statement.verb_append _ _ (by decide)

theorem verb_deleteSchema : (catalog.deleteSchema className).verb = "DELETE".toList := by
  unfold deleteSchema
  simp only [String.append_assoc]
  exact Statement.verb_append _ _ (by decide)

theorem verb_dropTable (table : String) : (dropTable table).verb = "DROP".toList :=
  Statement.verb_append _ _ (by decide)

theorem verb_dropColumns {fields : List String} {statement : Statement}
    (h : dropColumns className fields = some statement) : statement.verb = "ALTER".toList := by
  unfold dropColumns at h
  split at h
  · cases h
  · cases h
    simp only [String.append_assoc]
    exact Statement.verb_append _ _ (by decide)

theorem verb_createIndex (name : String) (fields : List String) :
    (createIndex className name fields).verb = "CREATE".toList := by
  unfold createIndex indexOn
  simp only [String.append_assoc]
  exact Statement.verb_append _ _ (by decide)

theorem verb_dropIndex (name : String) : (dropIndex name).verb = "DROP".toList :=
  Statement.verb_append _ _ (by decide)

end Catalog

theorem HelperFunction.verb_statement (f : HelperFunction) :
    f.statement.verb = "CREATE".toList := by
  unfold statement
  rw [List.append_assoc, List.cons_append, String.intercalate_cons_of_ne_nil (by simp)]
  simp only [String.append_assoc]
  exact Statement.verb_append _ _ (by decide)

namespace Tolerance

/-- What classes and fields are made under: another request may have made the
table or the column, or not yet the table that the column is for. -/
def evolution : Tolerance := fun statement e =>
  (statement.verb == "CREATE".toList && Store.isBenignCreation e) ||
    (statement.verb == "ALTER".toList && (e.isSchemaRace || e.isMissingTable))

theorem evolution_ofDefinitions : evolution.OfDefinitions := by
  intro statement e h
  simp only [evolution, Bool.or_eq_true, Bool.and_eq_true, beq_iff_eq] at h
  exact h.imp And.left And.left

theorem none_ofDefinitions : none.OfDefinitions := fun _ _ h => absurd h (by simp [none])

end Tolerance

namespace Statement

variable {statement : Statement}

theorem isPlain_none {word : List Char} (h : statement.verb = word)
    (hs : word ≠ "SAVEPOINT".toList) : statement.IsPlain .none where
  verb := by rwa [h]
  untolerated _ := rfl

theorem isPlain_evolution {word : List Char} (h : statement.verb = word)
    (hs : word ≠ "SAVEPOINT".toList) (hc : word ≠ "CREATE".toList) (ha : word ≠ "ALTER".toList) :
    statement.IsPlain .evolution where
  verb := by rwa [h]
  untolerated := Tolerance.evolution_ofDefinitions.untolerated (by rwa [h]) (by rwa [h])

theorem isTried_creation (h : statement.verb = "CREATE".toList) :
    statement.IsTried .evolution Store.isBenignCreation where
  verb := by
    rw [h]
    decide
  tolerated e := by simp [Tolerance.evolution, h]

theorem isTried_addition (h : statement.verb = "ALTER".toList) :
    statement.IsTried .evolution fun e => e.isSchemaRace || e.isMissingTable where
  verb := by
    rw [h]
    decide
  tolerated e := by simp [Tolerance.evolution, h]

end Statement

theorem Work.lift_ok_bind {α β : Type} (a : α) (f : α → Work β) :
    ((liftM (.ok a : Except Error α) : Work α) >>= f) = f a := rfl

namespace Store

variable (store : Store) (className : String)

theorem obeys_createInside (schema : Schema) : (store.createInside schema).Obeys .evolution := by
  obtain ⟨statement, hok, hcreates⟩ := store.catalog.createTable_ok schema
  have hinsert : (store.catalog.insertSchema schema).IsPlain .evolution :=
    Statement.isPlain_evolution (Catalog.verb_insertSchema _ _) (by decide) (by decide) (by decide)
  unfold createInside
  rw [hok, Work.lift_ok_bind]
  refine (Work.Obeys.absorbing Tolerance.evolution_ofDefinitions
    (Statement.isTried_creation hcreates.verb)).bind fun _ => ?_
  refine (Work.Obeys.forM fun entry _ => ?_).bind fun _ => .execute hinsert
  exact (Work.Obeys.absorbing Tolerance.evolution_ofDefinitions
    (Statement.isTried_creation (Catalog.verb_createJoinTable ..))).bind fun _ => .pure ()

theorem obeys_addColumn (field : String) {type : FieldType} (h : type.isRelation = false) :
    (store.addColumn className field type).Obeys .evolution := by
  obtain ⟨statement, hok, hadds⟩ := store.catalog.addColumn_ok className field h
  unfold addColumn
  rw [hok, Work.lift_ok_bind]
  refine (Work.Obeys.absorbing Tolerance.evolution_ofDefinitions
    (Statement.isTried_addition hadds.verb)).bind fun applied => ?_
  cases applied with
  | true => exact .pure ()
  | false =>
    refine (Work.Obeys.query _).bind fun rows => ?_
    cases existsFlag rows with
    | true => exact .pure ()
    | false => exact store.obeys_createInside _

theorem obeys_addFieldInside (field : String) (type : FieldType) :
    (store.addFieldInside className field type).Obeys .evolution := by
  have hdeclare : (store.declareField className field type).IsPlain .evolution :=
    Statement.isPlain_evolution (Catalog.verb_setSchemaPath ..) (by decide) (by decide) (by decide)
  have hdeclaring : Work.Obeys .evolution (do
      let declared ← Work.query (store.catalog.selectDeclaredField className field)
      if declared.isEmpty then Work.execute (store.declareField className field type)) := by
    refine (Work.Obeys.query _).bind fun declared => ?_
    cases declared.isEmpty with
    | true => exact .execute hdeclare
    | false => exact .pure ()
  unfold addFieldInside
  cases hr : type.isRelation with
  | true =>
    exact (Work.Obeys.absorbing Tolerance.evolution_ofDefinitions
      (Statement.isTried_creation (Catalog.verb_createJoinTable ..))).bind fun _ => hdeclaring
  | false => exact (store.obeys_addColumn className field hr).bind fun _ => hdeclaring

theorem ensureMetadata_staysOutside : store.ensureMetadata.StaysOutside := by
  refine .bind (.request fun reply => .execute _ reply) fun reply => ?_
  cases reply with
  | ok count => exact .pure ()
  | error e =>
    dsimp only
    split
    · exact .pure ()
    · exact .throw _

theorem storedTables_stayOutside : Operation.StaysOutside
    (Operation.queryOr store.catalog.selectSchemas EngineError.isMissingTable [] pure) := by
  refine .bind (.request fun reply => .query _ reply) fun reply => ?_
  cases reply with
  | ok rows => exact .pure rows
  | error e =>
    dsimp only
    split
    · exact .pure []
    · exact .throw _

theorem deleteFields_settles (schema : Schema) (fields : List String) :
    (store.deleteFields className schema fields).Settles .none := by
  unfold deleteFields
  dsimp only
  generalize fields.foldl _ (schema.fields, ([] : List String)) = parts
  obtain ⟨remaining, columns⟩ := parts
  refine .run Tolerance.none_ofDefinitions (.bind (.execute ?_) fun _ => ?_)
  · exact Statement.isPlain_none (Catalog.verb_updateSchema ..) (by decide)
  · cases hdrop : Catalog.dropColumns className columns with
    | none => exact .pure ()
    | some statement =>
      exact .execute (Statement.isPlain_none (Catalog.verb_dropColumns className hdrop) (by decide))

theorem setIndexes_settles (submitted : Entries Json) (existing : IndexMap)
    (fields : Entries FieldType) :
    (store.setIndexes className submitted existing fields).Settles .none := by
  refine .after (.lift _) fun change => .map (.run Tolerance.none_ofDefinitions ?_) _
  refine .bind (.forM fun index _ => .execute ?_) fun _ =>
    .bind (.forM fun name _ => .execute ?_) fun _ => .execute ?_
  · exact Statement.isPlain_none (Catalog.verb_createIndex ..) (by decide)
  · exact Statement.isPlain_none (Catalog.verb_dropIndex name) (by decide)
  · exact Statement.isPlain_none (Catalog.verb_setSchemaPath ..) (by decide)

/-- Under every behaviour of the engine an operation that begins a transaction
ends it once and last. It rolls back just where a failure was not absorbed, and
then fails with the first such failure; it only succeeds where every statement
did or was undone at a savepoint of its own, and the commit succeeded. -/
theorem evolution_settled (engine : Engine) :
    store.prepare.SettlesWith engine .none ∧
    (∀ schema, (store.createClass className schema).SettlesWith engine .evolution) ∧
    (∀ field type, (store.addField className field type).SettlesWith engine .evolution) ∧
    (∀ schema fields, (store.deleteFields className schema fields).SettlesWith engine .none) ∧
    (store.deleteClass className).SettlesWith engine .none ∧
    store.deleteAllClasses.SettlesWith engine .none ∧
    (∀ indexes, (createIndexes className indexes).SettlesWith engine .none) ∧
    (∀ names, (dropIndexes names).SettlesWith engine .none) ∧
    ∀ submitted existing fields,
      (store.setIndexes className submitted existing fields).SettlesWith engine .none := by
  have hnone := @Tolerance.none_ofDefinitions
  have hevolution := @Tolerance.evolution_ofDefinitions
  refine ⟨?prepare, fun schema => ?createClass, fun field type => ?addField,
    fun schema fields => ?deleteFields, ?deleteClass, ?deleteAllClasses, fun indexes => ?createIndexes,
    fun names => ?dropIndexes, fun submitted existing fields => ?setIndexes⟩
  all_goals apply Operation.Settles.settlesWith
  case prepare =>
    refine .after store.ensureMetadata_staysOutside fun _ => .run hnone (.forM fun f _ => ?_)
    exact .execute (Statement.isPlain_none f.verb_statement (by decide))
  case createClass => exact .map (.run hevolution (store.obeys_createInside _)) _
  case addField => exact .run hevolution (store.obeys_addFieldInside className field type)
  case deleteFields => exact store.deleteFields_settles className schema fields
  case deleteClass =>
    refine .run hnone (.bind (.execute ?_) fun _ => .execute ?_)
    · exact Statement.isPlain_none (Catalog.verb_dropTable className) (by decide)
    · exact Statement.isPlain_none (Catalog.verb_deleteSchema ..) (by decide)
  case deleteAllClasses =>
    refine .after store.storedTables_stayOutside fun rows => .after (.lift _) fun tables => ?_
    refine .run hnone (.forM fun table _ => .execute ?_)
    exact Statement.isPlain_none (Catalog.verb_dropTable table) (by decide)
  case createIndexes =>
    refine .run hnone (.forM fun index _ => .execute ?_)
    exact Statement.isPlain_none (Catalog.verb_createIndex ..) (by decide)
  case dropIndexes =>
    refine .run hnone (.forM fun name _ => .execute ?_)
    exact Statement.isPlain_none (Catalog.verb_dropIndex name) (by decide)
  case setIndexes => exact store.setIndexes_settles className submitted existing fields

end Store
end DocSql
