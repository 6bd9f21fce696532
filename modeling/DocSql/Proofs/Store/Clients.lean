import DocSql.Proofs.Session.Transactions
import DocSql.Statement.Metadata
import DocSql.Store.Classes
import Mathlib.Data.List.Induction
import Mathlib.Data.List.Nodup
import Mathlib.Logic.Function.Basic

/-!
Clients that share one engine and are answered in turns. Each has a connection
with a transaction of its own; the rows of the metadata table are shared, and
those that a transaction adds are there once it commits, which is when their key
is checked: an insertion that meets a row of its class fails unless its text
says to do nothing then. The engine refuses to create a table where another
client was faster, and then everything but the return to a savepoint. Main
statement: clients that are on their way to a result by themselves all come to
it, whatever the turns.
-/
namespace DocSql

abbrev ClassRow := String × Json

/-- A row on its way into the metadata table, and whether one that its class has
there is kept. -/
structure Insertion where
  row : ClassRow
  keeping : Bool

/-- What a statement asks of a connection. -/
inductive Command
  | mark (savepoint : List Char)
  | release (savepoint : List Char)
  | undo (savepoint : List Char)
  | create
  | insert (insertion : Insertion)
  | other

namespace Statement

def behind (start : String) (statement : Statement) : List Char :=
  statement.sql.toList.drop start.toList.length

/-- Reads `INSERT INTO table (columns) VALUES (placeholders)`, with or without a
clause on conflicts behind it. -/
def insertion? (catalog : Catalog) (statement : Statement) : Option Insertion :=
  let values := "INSERT INTO " ++ Sql.identifier catalog.metadataTable ++
    " (\"className\", \"schema\", \"isParseClass\") VALUES ($1, $2::jsonb, true)"
  match statement.params with
  | [.text className, .json schema] =>
    if statement.sql = values ++ " ON CONFLICT (\"className\") DO NOTHING" then
      some { row := (className, schema), keeping := true }
    else if statement.sql = values then some { row := (className, schema), keeping := false }
    else none
  | _ => none

theorem insertion?_insertSchema (catalog : Catalog) (schema : Schema) :
    (catalog.insertSchema schema).insertion? catalog =
      some { row := (schema.className, schema.toJson), keeping := true } := by
  refine if_pos ?_
  unfold Catalog.insertSchema Catalog.table
  simp only [String.append_assoc]
  rfl

def row? (catalog : Catalog) (statement : Statement) : Option ClassRow :=
  (statement.insertion? catalog).map Insertion.row

def command (catalog : Catalog) (statement : Statement) : Command :=
  if statement.verb = "SAVEPOINT".toList then .mark (statement.behind "SAVEPOINT ")
  else if statement.verb = "RELEASE".toList then .release (statement.behind "RELEASE SAVEPOINT ")
  else if statement.verb = "ROLLBACK".toList then .undo (statement.behind "ROLLBACK TO SAVEPOINT ")
  else if statement.verb = "CREATE".toList then .create
  else (statement.insertion? catalog).elim .other .insert

end Statement

namespace EngineError

def failedTransaction : EngineError where
  fault := { message := "transaction is aborted", code := some SqlState.inFailedTransaction }

def noSavepoint : EngineError where
  fault := { message := "savepoint does not exist", code := some "3B001" }

def duplicateClass : EngineError where
  fault := { message := "class has a row", code := some SqlState.uniqueViolation }

end EngineError

/-- A refusal to create what another client has created: there is such a table,
column or object, or a unique value of the engine's catalog was in the way. -/
abbrev Race :=
  { e : EngineError // ∃ code ∈ ["42P07", "42701", "42710", "23505"], e.root.code = some code }

theorem Race.isBenign (race : Race) : Store.isBenignCreation race.1 = true := by
  obtain ⟨e, code, hcode, hroot⟩ := race
  simp only [Store.isBenignCreation, EngineError.isSchemaRace, EngineError.isUniqueViolation,
    EngineError.hasCode, hroot]
  clear hroot
  revert code
  decide

/-- The metadata table, whose key is the class name. -/
structure ClassTable where
  rows : List ClassRow
  keyed : (rows.map Prod.fst).Nodup

namespace ClassTable

def add (table : ClassTable) (row : ClassRow) : ClassTable :=
  if h : row.1 ∈ table.rows.map Prod.fst then table
  else
    { rows := table.rows ++ [row]
      keyed := by simpa using table.keyed.concat h }

def insert (table : ClassTable) (insertion : Insertion) : Except EngineError ClassTable :=
  if insertion.row.1 ∈ table.rows.map Prod.fst ∧ !insertion.keeping then .error .duplicateClass
  else .ok (table.add insertion.row)

theorem insert_keeping (table : ClassTable) (row : ClassRow) :
    table.insert { row, keeping := true } = .ok (table.add row) :=
  if_neg fun h => absurd h.2 Bool.false_ne_true

theorem mem_add (table : ClassTable) (row : ClassRow) :
    row.1 ∈ (table.add row).rows.map Prod.fst := by
  unfold add
  split
  next h => exact h
  next => simp

theorem add_add (table : ClassTable) (row : ClassRow) : (table.add row).add row = table.add row :=
  dif_pos (table.mem_add row)

def rowsOf (table : ClassTable) (className : String) : Nat :=
  (table.rows.map Prod.fst).count className

theorem rowsOf_add (table : ClassTable) (row : ClassRow) : (table.add row).rowsOf row.1 = 1 :=
  List.count_eq_one_of_mem (table.add row).keyed (table.mem_add row)

theorem rows_add (table : ClassTable) (row : ClassRow) :
    (table.add row).rows = if table.rowsOf row.1 = 0 then table.rows ++ [row] else table.rows := by
  simp only [rowsOf, List.count_eq_zero]
  unfold add
  by_cases h : row.1 ∈ table.rows.map Prod.fst
  · rw [dif_pos h, if_neg (not_not_intro h)]
  · rw [dif_neg h, if_pos h]

end ClassTable

/-- A connection: whether its transaction has failed, the rows that it adds, and
what they were at each savepoint, the latest first. -/
structure Connection where
  failed : Bool := false
  rows : List Insertion := []
  savepoints : List (List Char × List Insertion) := []

namespace Connection

def since (conn : Connection) (savepoint : List Char) : List (List Char × List Insertion) :=
  conn.savepoints.dropWhile (·.1 ≠ savepoint)

def undo (conn : Connection) (savepoint : List Char) : Except EngineError Nat × Connection :=
  match conn.since savepoint with
  | saved :: earlier => (.ok 0, { rows := saved.2, savepoints := saved :: earlier })
  | [] => (.error .noSavepoint, { conn with failed := true })

def obey (conn : Connection) (race : Option Race) : Command → Except EngineError Nat × Connection
  | .mark savepoint => (.ok 0, { conn with savepoints := (savepoint, conn.rows) :: conn.savepoints })
  | .release savepoint =>
    match conn.since savepoint with
    | _ :: earlier => (.ok 0, { conn with savepoints := earlier })
    | [] => (.error .noSavepoint, { conn with failed := true })
  | .undo savepoint => conn.undo savepoint
  | .create =>
    match race with
    | some e => (.error e, { conn with failed := true })
    | none => (.ok 0, conn)
  | .insert insertion => (.ok 1, { conn with rows := conn.rows ++ [insertion] })
  | .other => (.ok 0, conn)

def serve (conn : Connection) (race : Option Race) (command : Command) :
    Except EngineError Nat × Connection :=
  match conn.failed, command with
  | true, .undo savepoint => conn.undo savepoint
  | true, _ => (.error .failedTransaction, conn)
  | false, command => conn.obey race command

def publish (conn : Connection) (table : ClassTable) : Except EngineError ClassTable :=
  if conn.failed then .ok table else conn.rows.foldlM ClassTable.insert table

def answer (conn : Connection) (catalog : Catalog) (race : Option Race) (table : ClassTable) :
    (call : Call) → call.Reply × Connection × ClassTable
  | .start | .rollback => (.ok (), {}, table)
  | .commit =>
    match conn.publish table with
    | .ok published => (.ok (), {}, published)
    | .error e => (.error e, {}, table)
  | .executeInside statement =>
    let (reply, after) := conn.serve race (statement.command catalog)
    (reply, after, table)
  | .queryInside _ => (if conn.failed then .error .failedTransaction else .ok [], conn, table)
  | .query _ => (.ok [], conn, table)
  | .execute _ => (.ok (0 : Nat), conn, table)

end Connection

structure Client (α : Type) where
  conn : Connection := {}
  session : Session α

/-- A turn: the client that is answered, and the race that it loses if it
creates something then. -/
structure Turn (k : Nat) where
  client : Fin k
  race : Option Race

structure World (k : Nat) (α : Type) where
  table : ClassTable
  clients : Fin k → Client α

namespace World

variable {k : Nat} {α : Type}

def opening (table : ClassTable) (session : Session α) : World k α where
  table := table
  clients _ := { session }

def turn (catalog : Catalog) (world : World k α) (t : Turn k) : World k α :=
  match world.clients t.client with
  | { session := .done _, .. } => world
  | { conn, session := .ask call next } =>
    let (reply, after, table) := conn.answer catalog t.race world.table call
    { table, clients := Function.update world.clients t.client { conn := after, session := next reply } }

def run (catalog : Catalog) (world : World k α) (schedule : List (Turn k)) : World k α :=
  schedule.foldl (turn catalog) world

end World

def turns {k : Nat} (schedule : List (Turn k)) (i : Fin k) : Nat :=
  schedule.countP (·.client = i)

namespace Session

variable {α β : Type} {catalog : Catalog} {row : ClassRow} {n : Nat} {conn : Connection}

/-- However it is answered, the session asks as often as this and adds this row
when it asks the last time; what it leads to stands in a relation to what is
left of the number and to the connection. -/
def Leads (catalog : Catalog) (row : ClassRow) (post : α → Nat → Connection → Prop) :
    Session α → Nat → Connection → Prop
  | done a, n, conn => post a n conn
  | ask call next, n, conn => ∃ m, n = m + 1 ∧ ∀ (race : Option Race) (table : ClassTable),
      (conn.answer catalog race table call).2.2 = (if m = 0 then table.add row else table) ∧
      Leads catalog row post (next (conn.answer catalog race table call).1) m
        (conn.answer catalog race table call).2.1

theorem Leads.mono {post post' : α → Nat → Connection → Prop} {s : Session α}
    (h : s.Leads catalog row post n conn) (hp : ∀ a n conn, post a n conn → post' a n conn) :
    s.Leads catalog row post' n conn := by
  induction s generalizing n conn with
  | done a => exact hp a n conn h
  | ask call next ih =>
    obtain ⟨m, rfl, hnext⟩ := h
    exact ⟨m, rfl, fun race table => ⟨(hnext race table).1, ih _ (hnext race table).2⟩⟩

theorem leads_bind {post : β → Nat → Connection → Prop} {s : Session α} {f : α → Session β} :
    (s >>= f).Leads catalog row post n conn ↔
      s.Leads catalog row (fun a => (f a).Leads catalog row post) n conn := by
  induction s generalizing n conn with
  | done a => exact Iff.rfl
  | ask call next ih =>
    exact exists_congr fun m => and_congr_right fun _ => forall₂_congr fun race table =>
      and_congr_right fun _ => ih _

def result? : Session α → Option α
  | done a => some a
  | ask _ _ => none

theorem Leads.result?_eq {s : Session α} {a : α}
    (h : s.Leads catalog row (fun b m _ => b = a ∧ m = 0) n conn) :
    s.result? = if n = 0 then some a else none := by
  cases s with
  | done b =>
    obtain ⟨rfl, rfl⟩ := h
    rfl
  | ask call next =>
    obtain ⟨m, rfl, -⟩ := h
    rfl

end Session

namespace World

variable {k needed : Nat} {α : Type} {catalog : Catalog} {row : ClassRow} {a : α}
  {start : ClassTable} {world : World k α} {counts : Fin k → Nat}

/-- After these numbers of turns every client still leads to the result, and the
row is there once a client has had all its turns. -/
structure OnTrack (catalog : Catalog) (row : ClassRow) (a : α) (needed : Nat) (start : ClassTable)
    (world : World k α) (counts : Fin k → Nat) : Prop where
  leads : ∀ i, (world.clients i).session.Leads catalog row (fun b m _ => b = a ∧ m = 0)
    (needed - counts i) (world.clients i).conn
  table : world.table = if ∃ i, needed ≤ counts i then start.add row else start

theorem turn_done {t : Turn k} {conn : Connection} {b : α}
    (h : world.clients t.client = { conn, session := .done b }) : world.turn catalog t = world := by
  unfold turn
  rw [h]

theorem turn_ask {t : Turn k} {conn : Connection} {call : Call} {next : call.Reply → Session α}
    (h : world.clients t.client = { conn, session := .ask call next }) :
    world.turn catalog t =
      { table := (conn.answer catalog t.race world.table call).2.2
        clients := Function.update world.clients t.client
          { conn := (conn.answer catalog t.race world.table call).2.1
            session := next (conn.answer catalog t.race world.table call).1 } } := by
  unfold turn
  rw [h]

theorem exists_le_update {i : Fin k} :
    (∃ j, needed ≤ Function.update counts i (counts i + 1) j) ↔
      (∃ j, needed ≤ counts j) ∨ needed ≤ counts i + 1 := by
  constructor
  · rintro ⟨j, hj⟩
    by_cases h : j = i
    · subst h
      rw [Function.update_self] at hj
      exact .inr hj
    · rw [Function.update_of_ne h] at hj
      exact .inl ⟨j, hj⟩
  · rintro (⟨j, hj⟩ | hi)
    · by_cases h : j = i
      · subst h
        exact ⟨j, by rw [Function.update_self]; exact Nat.le_succ_of_le hj⟩
      · exact ⟨j, by rwa [Function.update_of_ne h]⟩
    · exact ⟨i, by rwa [Function.update_self]⟩

theorem OnTrack.turn (h : OnTrack catalog row a needed start world counts) (t : Turn k) :
    OnTrack catalog row a needed start (world.turn catalog t)
      (Function.update counts t.client (counts t.client + 1)) := by
  have hleads := h.leads t.client
  cases hc : world.clients t.client with
  | mk conn session =>
    rw [hc] at hleads
    cases session with
    | done b =>
      -- The client had all its turns before, and this one changes nothing.
      obtain ⟨hb, hcount⟩ := hleads
      have hall : needed ≤ counts t.client := Nat.sub_eq_zero_iff_le.1 hcount
      rw [turn_done hc]
      refine ⟨fun i => ?_, ?_⟩
      · by_cases hi : i = t.client
        · subst hi
          rw [Function.update_self, Nat.sub_eq_zero_of_le (Nat.le_succ_of_le hall), hc]
          exact ⟨hb, rfl⟩
        · rw [Function.update_of_ne hi]
          exact h.leads i
      · simp only [exists_le_update]
        rw [h.table, if_pos ⟨_, hall⟩, if_pos (.inl ⟨_, hall⟩)]
    | ask call next =>
      obtain ⟨m, hm, hnext⟩ := hleads
      obtain ⟨hpublished, hlater⟩ := hnext t.race world.table
      have hleft : needed - (counts t.client + 1) = m := by omega
      rw [turn_ask hc]
      refine ⟨fun i => ?_, ?_⟩
      · dsimp only
        by_cases hi : i = t.client
        · subst hi
          rw [Function.update_self, Function.update_self, hleft]
          exact hlater
        · rw [Function.update_of_ne hi, Function.update_of_ne hi]
          exact h.leads i
      · simp only [exists_le_update]
        rw [hpublished, h.table]
        by_cases hlast : m = 0
        · have hdone : (∃ i, needed ≤ counts i) ∨ needed ≤ counts t.client + 1 := .inr (by omega)
          rw [if_pos hlast, if_pos hdone]
          split
          · exact start.add_add row
          · rfl
        · have hmore : ¬needed ≤ counts t.client + 1 := by omega
          rw [if_neg hlast]
          simp only [hmore, or_false]

theorem OnTrack.run (schedule : List (Turn k)) {world : World k α}
    (h : OnTrack catalog row a needed start world fun _ => 0) :
    OnTrack catalog row a needed start (world.run catalog schedule) (turns schedule) := by
  induction schedule using List.reverseRecOn with
  | nil => exact h
  | append_singleton before t ih =>
    have hcounts : turns (before ++ [t]) =
        Function.update (turns before) t.client (turns before t.client + 1) := by
      funext i
      unfold turns
      rw [List.countP_append, List.countP_singleton]
      by_cases hi : i = t.client
      · subst hi
        rw [Function.update_self]
        simp
      · rw [Function.update_of_ne hi]
        simp [Ne.symm hi]
    rw [hcounts, World.run, List.foldl_append]
    exact ih.turn t

end World
end DocSql
