import DocSql.Proofs.Store.SchemaDocument
import Mathlib.Data.List.Induction
import Mathlib.Logic.Function.Basic

/-!
Requests that share the metadata row of one class and are answered in turns.
Each has a transaction of its own, whose changes others see once it commits.
Savepoints are set around statements on tables only, so that a return to one
undoes no change of the row. The engine would let a change wait for those of an
open transaction; without that there are more interleavings and the same orders
of changes. Whether a statement succeeds is up to the engine, what a question
about the row finds is not. Main statement: whatever the turns, the row keeps
the changes that its requests were told are committed, and every question was
answered from what the row was by then.
-/
namespace DocSql

namespace Event

variable (catalog : Catalog) (className : String)

def keeps (pending : List DocumentChange) : Event → List DocumentChange
  | ⟨.executeInside statement, .ok _⟩ =>
    pending ++ (statement.documentChange? catalog className).toList
  | ⟨.start, _⟩ | ⟨.commit, _⟩ | ⟨.rollback, _⟩ => []
  | _ => pending

def publishes (pending : List DocumentChange) : Event → List DocumentChange
  | ⟨.commit, .ok _⟩ => pending
  | ⟨.execute statement, .ok _⟩ => (statement.documentChange? catalog className).toList
  | _ => []

end Event

/-- The changes that a request has published, and those of its open transaction. -/
structure Footprint where
  published : List DocumentChange := []
  pending : List DocumentChange := []

namespace Footprint

variable (catalog : Catalog) (className : String)

def after (footprint : Footprint) (event : Event) : Footprint where
  published := footprint.published ++ event.publishes catalog className footprint.pending
  pending := event.keeps catalog className footprint.pending

def ofLog (log : List Event) : Footprint := log.foldl (after catalog className) {}

theorem ofLog_append_singleton (log : List Event) (event : Event) :
    ofLog catalog className (log ++ [event]) =
      (ofLog catalog className log).after catalog className event :=
  List.foldl_append

end Footprint

namespace Session

variable {α : Type}

def Reaches (s : Session α) (log : List Event) (left : Session α) : Prop :=
  match log, s with
  | [], s => s = left
  | event :: log, ask call next => ∃ reply, event = ⟨call, reply⟩ ∧ Reaches (next reply) log left
  | _ :: _, done _ => False

theorem Reaches.refl (s : Session α) : s.Reaches [] s := by simp [Reaches]

theorem Reaches.snoc {s : Session α} {log : List Event} {call : Call}
    {next : call.Reply → Session α} (h : s.Reaches log (ask call next)) (reply : call.Reply) :
    s.Reaches (log ++ [⟨call, reply⟩]) (next reply) := by
  induction log generalizing s with
  | nil =>
    rw [Reaches] at h
    subst h
    exact ⟨reply, rfl, .refl _⟩
  | cons event log ih =>
    cases s with
    | done a => exact h.elim
    | ask first rest =>
      obtain ⟨told, rfl, hrest⟩ := h
      exact ⟨told, rfl, ih hrest⟩

theorem Reaches.runs {s : Session α} {log : List Event} {a : α} (h : s.Reaches log (done a)) :
    s.Runs log a := by
  induction log generalizing s with
  | nil =>
    rw [Reaches] at h
    subst h
    exact ⟨rfl, rfl⟩
  | cons event log ih =>
    cases s with
    | done b => exact h.elim
    | ask call next =>
      obtain ⟨reply, rfl, hrest⟩ := h
      exact ⟨reply, log, rfl, ih hrest⟩

end Session

structure Request (α : Type) where
  session : Session α
  log : List Event := []

/-- The row of a class: its document at first, the changes committed since then
and the requests that made them, in order. -/
structure SchemaRow (k : Nat) (α : Type) where
  stored : Json
  history : List (Fin k × DocumentChange) := []
  requests : Fin k → Request α

namespace SchemaRow

variable {k : Nat} {α : Type} (catalog : Catalog) (className : String)

/-- A turn: the request that is answered, and what the engine replies where the
row has no say. -/
structure Turn (k : Nat) where
  request : Fin k
  reply : (call : Call) → call.Reply

def opening (stored : Json) (start : Fin k → Session α) : SchemaRow k α where
  stored := stored
  requests i := { session := start i }

def documentAfter (stored : Json) (history : List (Fin k × DocumentChange)) : Json :=
  stored.applyAll (history.map Prod.snd)

def document (row : SchemaRow k α) : Json := documentAfter row.stored row.history

def order (row : SchemaRow k α) : List (Fin k) := row.history.map Prod.fst

def changesOf (i : Fin k) (history : List (Fin k × DocumentChange)) : List DocumentChange :=
  (history.filter (·.1 = i)).map Prod.snd

def found (seen : Json) (statement : Statement) (rows : List Row) : List Row :=
  match statement.askedField? catalog className with
  | some field => if seen.declares field then [[("schema", .json seen)]] else []
  | none => rows

def answer (seen : Json) (reply : (call : Call) → call.Reply) : (call : Call) → call.Reply
  | .queryInside statement =>
    (reply (.queryInside statement)).map (found catalog className seen statement)
  | .query statement => (reply (.query statement)).map (found catalog className seen statement)
  | call => reply call

def footprint (row : SchemaRow k α) (i : Fin k) : Footprint :=
  .ofLog catalog className (row.requests i).log

/-- The document as a request sees it: with its own changes and the committed ones. -/
def seenBy (row : SchemaRow k α) (i : Fin k) : Json :=
  .applyAll row.document (row.footprint catalog className i).pending

def proceed (row : SchemaRow k α) (i : Fin k) (event : Event) (session : Session α) :
    SchemaRow k α :=
  { row with
    history := row.history ++ (event.publishes catalog className
      (row.footprint catalog className i).pending).map (i, ·)
    requests := Function.update row.requests i
      { session, log := (row.requests i).log ++ [event] } }

def turn (row : SchemaRow k α) (t : Turn k) : SchemaRow k α :=
  match (row.requests t.request).session with
  | .done _ => row
  | .ask call next =>
    let reply := answer catalog className (row.seenBy catalog className t.request) t.reply call
    row.proceed catalog className t.request ⟨call, reply⟩ (next reply)

def run (row : SchemaRow k α) (schedule : List (Turn k)) : SchemaRow k α :=
  schedule.foldl (turn catalog className) row

/-- The row is as its requests were told: each is on its way, its changes are
those it has published, and where it asked for a field it learned whether the
document had it after the changes so far and its own. -/
structure IsTold (stored : Json) (start : Fin k → Session α) (row : SchemaRow k α) : Prop where
  kept : row.stored = stored
  reached : ∀ i, (start i).Reaches (row.requests i).log (row.requests i).session
  published : ∀ i, changesOf i row.history = (row.footprint catalog className i).published
  answered : ∀ i before statement field rows later,
    (row.requests i).log = before ++ .found statement rows :: later →
    statement.askedField? catalog className = some field →
    ∃ earlier, earlier <+: row.history ∧
      changesOf i earlier = (Footprint.ofLog catalog className before).published ∧
      (rows = [] ↔ (Json.applyAll (documentAfter stored earlier)
        (Footprint.ofLog catalog className before).pending).declares field = false)

variable {catalog className}

theorem isTold_opening (stored : Json) (start : Fin k → Session α) :
    IsTold catalog className stored start (opening stored start) where
  kept := rfl
  reached i := Session.Reaches.refl (start i)
  published _ := rfl
  answered _ before _ _ _ _ hlog := absurd hlog.symm (by simp [opening])

theorem found_eq_nil_iff {seen : Json} {statement : Statement} {field : String} (rows : List Row)
    (h : statement.askedField? catalog className = some field) :
    found catalog className seen statement rows = [] ↔ seen.declares field = false := by
  unfold found
  rw [h]
  cases hd : seen.declares field <;> simp [hd]

theorem answer_found {seen : Json} {reply : (call : Call) → call.Reply} {call : Call}
    {statement : Statement} {rows : List Row}
    (h : (⟨call, answer catalog className seen reply call⟩ : Event) = .found statement rows) :
    ∃ others, rows = found catalog className seen statement others := by
  obtain ⟨rfl, hreply⟩ := Event.mk.inj h
  have hmap : (reply (.queryInside statement)).map (found catalog className seen statement) =
      .ok rows := eq_of_heq hreply
  cases hr : reply (.queryInside statement) with
  | error e =>
    rw [hr] at hmap
    cases hmap
  | ok others =>
    rw [hr] at hmap
    cases hmap
    exact ⟨others, rfl⟩

theorem changesOf_append (i : Fin k) (history later : List (Fin k × DocumentChange)) :
    changesOf i (history ++ later) = changesOf i history ++ changesOf i later := by
  unfold changesOf
  rw [List.filter_append, List.map_append]

theorem changesOf_own (i : Fin k) (changes : List DocumentChange) :
    changesOf i (changes.map (i, ·)) = changes := by
  unfold changesOf
  induction changes with
  | nil => rfl
  | cons change rest ih => simpa using ih

theorem changesOf_other {i j : Fin k} (h : i ≠ j) (changes : List DocumentChange) :
    changesOf i (changes.map (j, ·)) = [] := by
  unfold changesOf
  simp [List.filter_map, Function.comp_def, Ne.symm h]

theorem append_singleton_eq {log before later : List Event} {last event : Event}
    (h : log ++ [last] = before ++ event :: later) :
    (before = log ∧ last = event) ∨ ∃ middle, log = before ++ event :: middle := by
  rcases List.eq_nil_or_concat later with rfl | ⟨middle, other, rfl⟩
  · obtain ⟨rfl, hlast⟩ := List.append_inj' h rfl
    exact .inl ⟨rfl, List.head_eq_of_cons_eq hlast⟩
  · rw [List.concat_eq_append, ← List.cons_append, ← List.append_assoc] at h
    exact .inr ⟨middle, (List.append_inj' h rfl).1⟩

section Step

variable {stored : Json} {start : Fin k → Session α} {row : SchemaRow k α} {i j : Fin k}
  {event : Event} {session : Session α} {call : Call} {next : call.Reply → Session α}

theorem requests_proceed_self : (row.proceed catalog className i event session).requests i =
    { session, log := (row.requests i).log ++ [event] } :=
  Function.update_self ..

theorem requests_proceed_other (h : j ≠ i) :
    (row.proceed catalog className i event session).requests j = row.requests j :=
  Function.update_of_ne h ..

theorem footprint_proceed_self :
    (row.proceed catalog className i event session).footprint catalog className i =
      (row.footprint catalog className i).after catalog className event := by
  unfold footprint
  rw [requests_proceed_self, Footprint.ofLog_append_singleton]

theorem footprint_proceed_other (h : j ≠ i) :
    (row.proceed catalog className i event session).footprint catalog className j =
      row.footprint catalog className j := by
  unfold footprint
  rw [requests_proceed_other h]

theorem IsTold.proceed (h : IsTold catalog className stored start row)
    (hs : (row.requests i).session = .ask call next) (reply : (call : Call) → call.Reply) :
    let told := answer catalog className (row.seenBy catalog className i) reply call
    IsTold catalog className stored start
      (row.proceed catalog className i ⟨call, told⟩ (next told)) := by
  intro told
  refine ⟨h.kept, fun j => ?reached, fun j => ?published, ?answered⟩
  case reached =>
    by_cases hj : j = i
    · subst hj
      have hreached := h.reached j
      rw [hs] at hreached
      rw [requests_proceed_self]
      exact hreached.snoc told
    · rw [requests_proceed_other hj]
      exact h.reached j
  case published =>
    have hhistory := changesOf_append j row.history
    by_cases hj : j = i
    · subst hj
      rw [footprint_proceed_self, SchemaRow.proceed, hhistory, changesOf_own, h.published j]
      rfl
    · rw [footprint_proceed_other hj, SchemaRow.proceed, hhistory, changesOf_other hj,
        List.append_nil, h.published j]
  case answered =>
    intro j before statement field rows later hlog hasked
    have hbefore {middle : List Event}
        (hmiddle : (row.requests j).log = before ++ .found statement rows :: middle) :=
      h.answered j before statement field rows middle hmiddle hasked
    have hgrown : row.history <+:
        (row.proceed catalog className i ⟨call, told⟩ (next told)).history := List.prefix_append ..
    by_cases hj : j = i
    · subst hj
      rw [requests_proceed_self] at hlog
      rcases append_singleton_eq hlog with ⟨rfl, hlast⟩ | ⟨middle, hmiddle⟩
      · -- The question that is answered now sees all that was committed.
        obtain ⟨others, rfl⟩ := answer_found hlast
        refine ⟨row.history, hgrown, h.published j, ?_⟩
        rw [found_eq_nil_iff others hasked, ← h.kept]
        rfl
      · obtain ⟨earlier, hbegins, hrest⟩ := hbefore hmiddle
        exact ⟨earlier, hbegins.trans hgrown, hrest⟩
    · rw [requests_proceed_other hj] at hlog
      obtain ⟨earlier, hbegins, hrest⟩ := hbefore hlog
      exact ⟨earlier, hbegins.trans hgrown, hrest⟩

theorem IsTold.turn (h : IsTold catalog className stored start row) (t : Turn k) :
    IsTold catalog className stored start (row.turn catalog className t) := by
  unfold SchemaRow.turn
  cases hs : (row.requests t.request).session with
  | done a => exact h
  | ask call next => exact h.proceed hs t.reply

end Step

theorem isTold_run (stored : Json) (start : Fin k → Session α) (schedule : List (Turn k)) :
    IsTold catalog className stored start
      ((opening stored start).run catalog className schedule) := by
  induction schedule using List.reverseRecOn with
  | nil => exact isTold_opening stored start
  | append_singleton before t ih =>
    rw [SchemaRow.run, List.foldl_append]
    exact ih.turn t

end SchemaRow
end DocSql
