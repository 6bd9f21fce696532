import DocSql.Proofs.Store.Clients
import DocSql.Proofs.Store.Discipline

/-!
Creating one class at once. A table that another client has made fails the
transaction, and the return to the savepoint mends it, so the row of the class
is added all the same. Main statement: all clients that create a class come to
the same result, and the metadata keeps one row for it, whatever their turns and
whatever races they lose.
-/
namespace DocSql

namespace Statement

variable (catalog : Catalog)

theorem behind_append (start rest : String) (params : List Datum) :
    behind start ⟨start ++ rest, params⟩ = rest.toList := by
  unfold behind
  rw [String.toList_append, List.drop_left]

theorem command_mark (n : Nat) :
    (mark n).command catalog = .mark (Step.savepoint n).toList := by
  unfold command
  rw [if_pos (verb_mark n)]
  exact congrArg Command.mark (behind_append ..)

theorem command_release (n : Nat) :
    (release n).command catalog = .release (Step.savepoint n).toList := by
  unfold command
  rw [verb_release, if_neg (by decide), if_pos rfl]
  exact congrArg Command.release (behind_append ..)

theorem command_undo (n : Nat) :
    (undo n).command catalog = .undo (Step.savepoint n).toList := by
  unfold command
  rw [verb_undo, if_neg (by decide), if_neg (by decide), if_pos rfl]
  exact congrArg Command.undo (behind_append ..)

theorem command_create {statement : Statement} (h : statement.verb = "CREATE".toList) :
    statement.command catalog = .create := by
  unfold command
  rw [h, if_neg (by decide), if_neg (by decide), if_neg (by decide), if_pos rfl]

theorem command_insertSchema (schema : Schema) :
    (catalog.insertSchema schema).command catalog =
      .insert { row := (schema.className, schema.toJson), keeping := true } := by
  unfold command
  rw [Catalog.verb_insertSchema, if_neg (by decide), if_neg (by decide), if_neg (by decide),
    if_neg (by decide), insertion?_insertSchema]
  rfl

end Statement

namespace Connection

variable {conn : Connection} {rows : List Insertion}

/-- The transaction has not failed and adds these rows. -/
structure IsHealthy (conn : Connection) (rows : List Insertion) : Prop where
  failed : conn.failed = false
  rows : conn.rows = rows

theorem IsHealthy.serve (h : conn.IsHealthy rows) (race : Option Race) (command : Command) :
    conn.serve race command = conn.obey race command := by
  unfold Connection.serve
  rw [h.failed]

theorem IsHealthy.publish {row : ClassRow} (h : conn.IsHealthy [{ row, keeping := true }])
    (table : ClassTable) : conn.publish table = .ok (table.add row) := by
  unfold Connection.publish
  rw [h.failed, h.rows]
  exact congrArg (· >>= pure) (table.insert_keeping row)

/-- Where the latest savepoint has this name, a return to it gives the rows back
and mends the transaction. -/
theorem undo_latest {name : List Char} {earlier : List (List Char × List Insertion)}
    (h : conn.savepoints = (name, rows) :: earlier) :
    conn.undo name = (.ok 0, { rows, savepoints := (name, rows) :: earlier }) := by
  have hsince : conn.since name = (name, rows) :: earlier := by
    unfold since
    rw [h, List.dropWhile_cons_of_neg (by simp)]
  unfold undo
  rw [hsince]

theorem obey_release_latest {name : List Char} {earlier : List (List Char × List Insertion)}
    (h : conn.savepoints = (name, rows) :: earlier) (race : Option Race) :
    conn.obey race (.release name) = (.ok 0, { conn with savepoints := earlier }) := by
  have hsince : conn.since name = (name, rows) :: earlier := by
    unfold since
    rw [h, List.dropWhile_cons_of_neg (by simp)]
  unfold obey
  dsimp only
  rw [hsince]

end Connection

theorem Session.leads_inside {α : Type} {catalog : Catalog} {row : ClassRow}
    {post : α → Nat → Connection → Prop} {statement : Statement}
    {next : (Call.executeInside statement).Reply → Session α} {n : Nat} {conn : Connection}
    (hn : 0 < n)
    (h : ∀ race, ∃ (reply : (Call.executeInside statement).Reply) (after : Connection),
      conn.serve race (statement.command catalog) = (reply, after) ∧
        (next reply).Leads catalog row post n after) :
    (ask (.executeInside statement) next).Leads catalog row post (n + 1) conn := by
  refine ⟨n, rfl, fun race table => ⟨(if_neg (Nat.ne_of_gt hn)).symm, ?_⟩⟩
  obtain ⟨reply, after, hserve, hnext⟩ := h race
  have hanswer : conn.answer catalog race table (.executeInside statement) =
      (reply, after, table) :=
    congrArg (fun p => (p.1, p.2, table)) hserve
  rw [hanswer]
  exact hnext

namespace Work

variable {α β : Type} {catalog : Catalog} {row : ClassRow} {steps : Nat}
  {before middle after : List Insertion}

/-- Work that never fails where the engine only refuses what is created already.
It asks as often as this, and from these rows it comes to those. -/
def Succeeds (catalog : Catalog) (row : ClassRow) (w : Work α) (steps : Nat)
    (before after : List Insertion) : Prop :=
  ∀ (tx : Transaction) (conn : Connection) (n : Nat), 0 < n → conn.IsHealthy before →
    Session.Leads catalog row
      (fun p m conn' => (∃ a, p.1 = .ok a) ∧ m = n ∧ conn'.IsHealthy after)
      (w.run.run tx) (n + steps) conn

theorem Succeeds.pure (a : α) : Succeeds catalog row (pure a) 0 before before :=
  fun _ _ _ _ h => ⟨⟨a, rfl⟩, rfl, h⟩

theorem Succeeds.bind {w : Work β} {f : β → Work α} {more : Nat}
    (h : Succeeds catalog row w steps before middle)
    (hf : ∀ b, Succeeds catalog row (f b) more middle after) :
    Succeeds catalog row (w >>= f) (steps + more) before after := by
  intro tx conn n hn hconn
  have hbind : ((w >>= f).run.run tx : Session _) =
      w.run.run tx >>= fun p => (ExceptT.bindCont f p.1).run p.2 := rfl
  rw [hbind, Session.leads_bind, Nat.add_comm steps, ← Nat.add_assoc]
  refine (h tx conn (n + more) (by omega) hconn).mono ?_
  rintro ⟨outcome, tx'⟩ m conn' ⟨⟨b, rfl⟩, rfl, hconn'⟩
  exact hf b tx' conn' n hn hconn'

theorem Succeeds.absorbing {statement : Statement} (h : statement.verb = "CREATE".toList) :
    Succeeds catalog row (absorbing statement Store.isBenignCreation) 3 before before := by
  intro tx conn n hn hconn
  obtain ⟨marked, tried, hrun, -, hmarked, happlied, hfailed⟩ :=
    run_absorbing statement Store.isBenignCreation tx
  rw [hrun]
  let name := (Step.savepoint (tx.savepoints + 1)).toList
  have hhealthy (savepoints) : Connection.IsHealthy { conn with savepoints } before :=
    ⟨hconn.failed, hconn.rows⟩
  have hmark (race : Option Race) :
      conn.serve race ((Statement.mark (tx.savepoints + 1)).command catalog) =
        (.ok 0, { conn with savepoints := (name, conn.rows) :: conn.savepoints }) := by
    rw [hconn.serve, Statement.command_mark]
    rfl
  refine Session.leads_inside (by omega) fun race => ⟨.ok (0 : Nat), _, hmark race, ?_⟩
  rw [hmarked (0 : Nat)]
  refine Session.leads_inside (by omega) fun race => ?_
  rw [(hhealthy _).serve, Statement.command_create catalog h]
  cases race with
  | none =>
    refine ⟨.ok (0 : Nat), _, rfl, ?_⟩
    rw [happlied (0 : Nat)]
    refine Session.leads_inside hn fun race => ⟨.ok (0 : Nat), conn, ?_, ?_⟩
    · rw [(hhealthy _).serve, Statement.command_release, Connection.obey_release_latest rfl]
      rfl
    · exact ⟨⟨true, rfl⟩, rfl, hconn⟩
  | some e =>
    refine ⟨.error e.1, _, rfl, ?_⟩
    rw [hfailed, if_pos e.isBenign]
    refine Session.leads_inside hn fun race => ⟨.ok (0 : Nat),
      { rows := conn.rows, savepoints := (name, conn.rows) :: conn.savepoints }, ?_, ?_⟩
    · rw [Statement.command_undo]
      exact Connection.undo_latest rfl
    · exact ⟨⟨false, rfl⟩, rfl, rfl, hconn.rows⟩

theorem Succeeds.insertSchema (schema : Schema) :
    Succeeds catalog row (execute (catalog.insertSchema schema)) 1 before
      (before ++ [{ row := (schema.className, schema.toJson), keeping := true }]) := by
  intro tx conn n hn hconn
  change Session.Leads _ _ _ (.ask (.executeInside (catalog.insertSchema schema)) _) _ _
  refine Session.leads_inside hn fun race => ⟨.ok (1 : Nat),
    { conn with rows := conn.rows ++ [{ row := (schema.className, schema.toJson), keeping := true }] },
    ?_, ?_⟩
  · rw [hconn.serve, Statement.command_insertSchema]
    rfl
  · exact ⟨⟨(), rfl⟩, rfl, hconn.failed, by rw [hconn.rows]⟩

theorem Succeeds.forM {f : β → Work Unit} {items : List β}
    (h : ∀ b ∈ items, Succeeds catalog row (f b) steps before before) :
    Succeeds catalog row (items.forM f) (steps * items.length) before before := by
  induction items with
  | nil => exact .pure ()
  | cons b rest ih =>
    have hrest := ih fun c hc => h c (List.mem_cons_of_mem b hc)
    rw [List.length_cons, Nat.mul_succ, Nat.add_comm]
    exact (h b List.mem_cons_self).bind fun _ => hrest

end Work

namespace Store

variable (store : Store)

theorem createInside_succeeds (schema : Schema) (row : ClassRow) :
    Work.Succeeds store.catalog row (store.createInside schema)
      (3 + (3 * schema.relationFields.length + 1)) []
      [{ row := (schema.className, schema.toJson), keeping := true }] := by
  obtain ⟨statement, hok, hcreates⟩ := store.catalog.createTable_ok schema
  unfold createInside
  rw [hok, Work.lift_ok_bind]
  refine (Work.Succeeds.absorbing hcreates.verb).bind fun _ => ?_
  refine Work.Succeeds.bind (.forM fun entry _ => ?_) fun _ => .insertSchema schema
  exact (Work.Succeeds.absorbing (Catalog.verb_createJoinTable ..)).bind fun _ => .pure ()

theorem run_leads {α : Type} {catalog : Catalog} {row : ClassRow} {work : Work α} {steps : Nat}
    (h : work.Succeeds catalog row steps [] [{ row, keeping := true }]) :
    (Transaction.run work).run.Leads catalog row (fun result n _ => (∃ a, result = .ok a) ∧ n = 0)
      (steps + 2) {} := by
  refine ⟨steps + 1, rfl, fun _ _ => ⟨rfl, ?_⟩⟩
  change Session.Leads _ _ _ (((work.run.run {} : Session _) >>= fun p => pure (Except.ok p)) >>=
    ExceptT.bindCont fun p => p.2.finish p.1) _ _
  rw [Session.leads_bind, Session.leads_bind, Nat.add_comm]
  refine (h {} {} 1 Nat.one_pos ⟨rfl, rfl⟩).mono ?_
  rintro ⟨outcome, tx⟩ n conn ⟨⟨a, rfl⟩, rfl, hconn⟩
  refine ⟨0, rfl, fun race table => ?_⟩
  have hanswer : conn.answer catalog race table .commit = (.ok (), {}, table.add row) := by
    unfold Connection.answer
    rw [hconn.publish]
  rw [hanswer]
  exact ⟨rfl, ⟨a, rfl⟩, rfl⟩

theorem createClass_leads (className : String) (schema : Schema) :
    (store.createClass className schema).run.Leads store.catalog
      (className, (schema.named className).toJson)
      (fun result n _ => result = .ok (schema.named className).toDocument ∧ n = 0)
      (3 * schema.relationFields.length + 6) {} := by
  have hwork := store.createInside_succeeds (schema.named className)
    (className, (schema.named className).toJson)
  have hcount : 3 + (3 * (schema.named className).relationFields.length + 1) + 2 =
      3 * schema.relationFields.length + 6 := by
    change 3 + (3 * schema.relationFields.length + 1) + 2 = _
    omega
  change Session.Leads _ _ _ ((Transaction.run (store.createInside (schema.named className))).run >>=
    ExceptT.bindCont fun _ => pure (schema.named className).toDocument) _ _
  rw [Session.leads_bind, ← hcount]
  refine (run_leads hwork).mono ?_
  rintro result n conn ⟨⟨a, rfl⟩, rfl⟩
  exact ⟨rfl, rfl⟩

/-- Clients that create one class with one schema, in any turns and losing any
races: each that has had its turns has the class, and the metadata table has one
row for it as soon as there is such a client, the row it had or else the one
that all of them add. -/
theorem createClass_converges (className : String) (schema : Schema) {k : Nat} (table : ClassTable)
    (schedule : List (Turn k)) :
    let row := (className, (schema.named className).toJson)
    let needed := 3 * schema.relationFields.length + 6
    let world := (World.opening table (store.createClass className schema).run).run store.catalog
      schedule
    (∀ i, (world.clients i).session.result? =
      if needed ≤ turns schedule i then some (.ok (schema.named className).toDocument) else none) ∧
    world.table.rows = (if (∃ i, needed ≤ turns schedule i) ∧ table.rowsOf className = 0 then
      table.rows ++ [row] else table.rows) ∧
    world.table.rowsOf className =
      if ∃ i, needed ≤ turns schedule i then 1 else table.rowsOf className := by
  intro row needed world
  have hopening : World.OnTrack store.catalog row (.ok (schema.named className).toDocument) needed
      table (World.opening table (store.createClass className schema).run : World k _)
      fun _ => 0 := by
    refine ⟨fun i => store.createClass_leads className schema, ?_⟩
    have hnone : ¬∃ i : Fin k, needed ≤ 0 := fun ⟨_, h⟩ => absurd h (Nat.not_succ_le_zero _)
    exact (if_neg hnone).symm
  have htrack := hopening.run schedule
  refine ⟨fun i => ?_, ?_, ?_⟩
  · rw [(htrack.leads i).result?_eq]
    simp only [Nat.sub_eq_zero_iff_le]
  · rw [htrack.table, ite_and]
    split
    · exact table.rows_add row
    · rfl
  · rw [htrack.table]
    split
    · exact table.rowsOf_add row
    · rfl

end Store
end DocSql
