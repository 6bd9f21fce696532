import DocSql.Proofs.Session.Transactions
import Mathlib.Data.List.Nodup

/-!
How a transaction comes to its end, told from the exchange alone. Main
statement: an operation that does its work in one transaction settles it, if
the work goes on after the failures it tolerates and no others.
-/
namespace DocSql

theorem Statement.mark_injective : Function.Injective fun n => (mark n).sql := by
  intro n m h
  have hdigits : Nat.toDigits 10 n = Nat.toDigits 10 m := by
    have hlist := congrArg String.toList h
    simp only [mark, Step.savepoint, String.toList_append, List.append_cancel_left_eq] at hlist
    rwa [← Nat.toList_repr, ← Nat.toList_repr]
  rw [← Nat.ofDigitChars_ten_toDigits (n := n), hdigits, Nat.ofDigitChars_ten_toDigits]

namespace Event

def IsInside (event : Event) : Prop :=
  ∃ statement, event.call = .queryInside statement ∨ event.call = .executeInside statement

def failure? : Event → Option (Statement × EngineError)
  | ⟨.queryInside statement, .error e⟩ => some (statement, e)
  | ⟨.executeInside statement, .error e⟩ => some (statement, e)
  | _ => none

/-- A failure that work does not go on after. A question is never tried at a savepoint. -/
def unabsorbed? (tolerates : Tolerance) : Event → Option EngineError
  | ⟨.queryInside _, .error e⟩ => some e
  | ⟨.executeInside statement, .error e⟩ => if tolerates statement e then none else some e
  | _ => none

def savepoint? : Event → Option String
  | ⟨.executeInside statement, _⟩ =>
    if statement.verb = "SAVEPOINT".toList then some statement.sql else none
  | _ => none

variable {tolerates : Tolerance} {statement : Statement} {count : Nat} {rows : List Row}
  {e : EngineError}

@[simp] theorem isInside_executed : (executed statement count).IsInside := ⟨statement, .inr rfl⟩
@[simp] theorem isInside_failed : (failed statement e).IsInside := ⟨statement, .inr rfl⟩
@[simp] theorem isInside_found : (found statement rows).IsInside := ⟨statement, .inl rfl⟩
@[simp] theorem isInside_unfound : (unfound statement e).IsInside := ⟨statement, .inl rfl⟩

@[simp] theorem failure?_executed : (executed statement count).failure? = none := rfl
@[simp] theorem failure?_failed : (failed statement e).failure? = some (statement, e) := rfl
@[simp] theorem failure?_found : (found statement rows).failure? = none := rfl

@[simp] theorem unabsorbed?_executed : (executed statement count).unabsorbed? tolerates = none :=
  rfl

@[simp] theorem unabsorbed?_failed :
    (failed statement e).unabsorbed? tolerates = if tolerates statement e then none else some e :=
  rfl

@[simp] theorem unabsorbed?_found : (found statement rows).unabsorbed? tolerates = none := rfl
@[simp] theorem unabsorbed?_unfound : (unfound statement e).unabsorbed? tolerates = some e := rfl

theorem savepoint?_executed (h : statement.verb ≠ "SAVEPOINT".toList) :
    (executed statement count).savepoint? = none := if_neg h

theorem savepoint?_failed (h : statement.verb ≠ "SAVEPOINT".toList) :
    (failed statement e).savepoint? = none := if_neg h

@[simp] theorem savepoint?_found : (found statement rows).savepoint? = none := rfl

@[simp] theorem savepoint?_mark {n : Nat} :
    (executed (.mark n) count).savepoint? = some (Statement.mark n).sql :=
  if_pos (Statement.verb_mark n)

@[simp] theorem savepoint?_release {n : Nat} : (executed (.release n) count).savepoint? = none :=
  savepoint?_executed (by rw [Statement.verb_release]; decide)

@[simp] theorem savepoint?_undo {n : Nat} : (executed (.undo n) count).savepoint? = none :=
  savepoint?_executed (by rw [Statement.verb_undo]; decide)

end Event

/-- What is said while no transaction is open, and leaves it so. -/
inductive Event.IsOutside : Event → Prop
  | query (statement : Statement) (reply : Call.Reply (.query statement)) :
    IsOutside ⟨.query statement, reply⟩
  | execute (statement : Statement) (reply : Call.Reply (.execute statement)) :
    IsOutside ⟨.execute statement, reply⟩
  | refused (e : EngineError) : IsOutside ⟨.start, .error e⟩

/-- Every failure was tolerated, and undone at a savepoint set just before it
that has a name of its own. -/
structure IsClean (tolerates : Tolerance) (body : List Event) : Prop where
  undone : ∀ before event after statement e, body = before ++ event :: after →
    event.failure? = some (statement, e) → tolerates statement e ∧
      ∃ n earlier marked undone later, before = earlier ++ [.executed (.mark n) marked] ∧
        after = .executed (.undo n) undone :: later
  names : (body.filterMap Event.savepoint?).Nodup

/-- A transaction is ended last. It is rolled back just where a failure was not
tolerated, of which clients see the root of the first, and it only gives a
result where it is clean and committed. -/
structure Transaction.IsSettled {α : Type} (tolerates : Tolerance) (body : List Event)
    (last : Event) (result : Except Error α) : Prop where
  inside : ∀ event ∈ body, event.IsInside
  ended : (last.call = .commit ∧ body.findSome? (Event.unabsorbed? tolerates) = none) ∨
    (last.call = .rollback ∧ ∃ e, body.findSome? (Event.unabsorbed? tolerates) = some e ∧
      result = .error (EngineError.toError { fault := e.root }))
  clean : ∀ a, result = .ok a → last = ⟨.commit, .ok ()⟩ ∧ IsClean tolerates body

def Operation.IsSettled {α : Type} (tolerates : Tolerance) (log : List Event)
    (result : Except Error α) : Prop :=
  ((∀ event ∈ log, event.IsOutside) ∧ ∃ error, result = .error error) ∨
  ∃ before body last, log = before ++ .begun :: (body ++ [last]) ∧
    (∀ event ∈ before, event.IsOutside) ∧ Transaction.IsSettled tolerates body last result

namespace Segment

variable {tolerates : Tolerance} {n m : Nat} {log : List Event}

theorem inside (h : Segment tolerates n log m) : ∀ event ∈ log, event.IsInside := by
  cases h <;> simp

theorem absorbed_all (h : Segment tolerates n log m) :
    log.findSome? (Event.unabsorbed? tolerates) = none := by
  cases h with
  | found | executed | applied => simp
  | absorbed marked undone h ht => simp [ht]

theorem undone (h : Segment tolerates n log m) {before after : List Event} {event : Event}
    {statement : Statement} {e : EngineError} (hlog : log = before ++ event :: after)
    (hf : event.failure? = some (statement, e)) :
    tolerates statement e ∧ ∃ marked undone, before = [.executed (.mark (n + 1)) marked] ∧
      after = [.executed (.undo (n + 1)) undone] := by
  have hmem : event ∈ log := hlog ▸ List.mem_append_right _ List.mem_cons_self
  cases h with
  | found | executed | applied =>
    simp only [List.mem_cons, List.not_mem_nil, or_false] at hmem
    rcases hmem with rfl | rfl | rfl <;> cases hf
  | absorbed marked undone h ht =>
    rcases before with - | ⟨first, - | ⟨second, - | ⟨third, rest⟩⟩⟩
    · cases hlog; cases hf
    · cases hlog
      cases hf
      exact ⟨ht, marked, undone, rfl, rfl⟩
    · cases hlog; cases hf
    · have hlength := congrArg List.length hlog
      simp at hlength

theorem savepoints (h : Segment tolerates n log m) : n ≤ m ∧
    log.filterMap Event.savepoint? =
      (List.range' (n + 1) (m - n)).map fun i => (Statement.mark i).sql := by
  cases h with
  | found statement rows => simp
  | executed count h => simp [Event.savepoint?_executed h]
  | applied marked count released h => simp [Event.savepoint?_executed h]
  | absorbed marked undone h => simp [Event.savepoint?_failed h]

end Segment

namespace Passed

variable {tolerates : Tolerance} {n m : Nat} {log : List Event}

theorem inside (h : Passed tolerates n log m) : ∀ event ∈ log, event.IsInside := by
  induction h with
  | nil => intro event hevent; cases hevent
  | cons h _ ih =>
    intro event hevent
    rcases List.mem_append.1 hevent with hfirst | hrest
    · exact h.inside event hfirst
    · exact ih event hrest

theorem absorbed_all (h : Passed tolerates n log m) :
    log.findSome? (Event.unabsorbed? tolerates) = none := by
  induction h with
  | nil => rfl
  | cons h _ ih => rw [List.findSome?_append, h.absorbed_all, ih, Option.or_none]

theorem undone (h : Passed tolerates n log m) {before after : List Event} {event : Event}
    {statement : Statement} {e : EngineError} (hlog : log = before ++ event :: after)
    (hf : event.failure? = some (statement, e)) :
    tolerates statement e ∧
      ∃ n earlier marked undone later, before = earlier ++ [.executed (.mark n) marked] ∧
        after = .executed (.undo n) undone :: later := by
  induction h generalizing before with
  | nil => exact absurd hlog.symm (by simp)
  | @cons n m k first rest h _ ih =>
    rcases List.append_eq_append_iff.1 hlog with ⟨middle, rfl, hrest⟩ | ⟨middle, rfl, hrest⟩
    · obtain ⟨ht, n', earlier, marked, undone, later, rfl, rfl⟩ := ih hrest
      exact ⟨ht, n', first ++ earlier, marked, undone, later, by simp, rfl⟩
    · cases middle with
      | nil =>
        have hstart : rest = [] ++ event :: after := hrest.symm
        obtain ⟨-, n', earlier, _, _, _, hbefore, -⟩ := ih hstart
        exact absurd hbefore (by simp)
      | cons other middle =>
        obtain ⟨rfl, rfl⟩ := List.cons.inj hrest
        obtain ⟨ht, marked, undone, rfl, rfl⟩ := h.undone rfl hf
        exact ⟨ht, n + 1, [], marked, undone, rest, rfl, rfl⟩

theorem savepoints (h : Passed tolerates n log m) : n ≤ m ∧
    log.filterMap Event.savepoint? =
      (List.range' (n + 1) (m - n)).map fun i => (Statement.mark i).sql := by
  induction h with
  | nil n => simp
  | @cons n m k first rest h _ ih =>
    obtain ⟨hfirst, hmarks⟩ := h.savepoints
    obtain ⟨hrest, hlater⟩ := ih
    have hsplit : List.range' (n + 1) (k - n) =
        List.range' (n + 1) (m - n) ++ List.range' (m + 1) (k - m) := by
      rw [show m + 1 = n + 1 + 1 * (m - n) by omega, List.range'_append]
      congr 1
      omega
    exact ⟨hfirst.trans hrest, by
      rw [List.filterMap_append, hmarks, hlater, hsplit, List.map_append]⟩

theorem clean (h : Passed tolerates n log m) : IsClean tolerates log where
  undone _ _ _ _ _ hlog hf := h.undone hlog hf
  names := by
    rw [h.savepoints.2]
    exact List.Nodup.map Statement.mark_injective List.nodup_range'

end Passed

namespace Halt

variable {tolerates : Tolerance} {n : Nat} {log : List Event} {e : EngineError}

theorem inside (h : Halt tolerates n log e) : ∀ event ∈ log, event.IsInside := by
  cases h <;> simp

theorem first (ht : tolerates.OfDefinitions) (h : Halt tolerates n log e) :
    log.findSome? (Event.unabsorbed? tolerates) = some e := by
  cases h with
  | unfound => rfl
  | failed h => simp [h]
  | refused marked h => simp [List.findSome?_cons, h]
  | unreleased marked count statement e => simp [List.findSome?_cons, ht.release]
  | stuck marked h e' => simp [List.findSome?_cons, h, ht.undo]

end Halt

namespace Stopped

variable {tolerates : Tolerance} {n : Nat} {log : List Event} {e : EngineError}

theorem inside (h : Stopped tolerates n log e) : ∀ event ∈ log, event.IsInside := by
  obtain ⟨before, m, last, rfl, hpassed, hhalt⟩ := h
  intro event hevent
  rcases List.mem_append.1 hevent with hbefore | hlast
  · exact hpassed.inside event hbefore
  · exact hhalt.inside event hlast

theorem first (ht : tolerates.OfDefinitions) (h : Stopped tolerates n log e) :
    log.findSome? (Event.unabsorbed? tolerates) = some e := by
  obtain ⟨before, m, last, rfl, hpassed, hhalt⟩ := h
  rw [List.findSome?_append, hpassed.absorbed_all, hhalt.first ht, Option.none_or]

end Stopped

theorem Transaction.IsSettled.map {α β : Type} {tolerates : Tolerance} {body : List Event}
    {last : Event} {outcome : Except Error β} (h : IsSettled tolerates body last outcome)
    (f : β → α) : IsSettled tolerates body last (outcome.map f) where
  inside := h.inside
  ended := by
    rcases h.ended with hcommit | ⟨hrollback, e, hfirst, rfl⟩
    · exact .inl hcommit
    · exact .inr ⟨hrollback, e, hfirst, rfl⟩
  clean := by
    intro a hok
    cases outcome with
    | ok b => exact h.clean b rfl
    | error e => cases hok

namespace Operation

variable {α β : Type} {tolerates : Tolerance}

def Settles (tolerates : Tolerance) (op : Operation α) : Prop :=
  ∀ log result, op.Runs log result → IsSettled tolerates log result

def SettlesWith (engine : Engine) (tolerates : Tolerance) (op : Operation α) : Prop :=
  IsSettled tolerates (op.exchange engine).1 (op.exchange engine).2

theorem Settles.settlesWith {op : Operation α} (h : op.Settles tolerates) (engine : Engine) :
    op.SettlesWith engine tolerates :=
  h _ _ (op.exchange_runs engine)

def StaysOutside (op : Operation α) : Prop :=
  ∀ log result, op.Runs log result → ∀ event ∈ log, event.IsOutside

namespace StaysOutside

theorem pure (a : α) : StaysOutside (pure a : Operation α) := by
  rintro log result ⟨rfl, -⟩ event hevent
  cases hevent

theorem throw (e : Error) : StaysOutside (throw e : Operation α) := by
  rintro log result ⟨rfl, -⟩ event hevent
  cases hevent

theorem lift (outcome : Except Error α) : StaysOutside (liftM outcome : Operation α) := by
  rintro log result ⟨rfl, -⟩ event hevent
  cases hevent

theorem request {call : Call} (h : ∀ reply, Event.IsOutside ⟨call, reply⟩) :
    StaysOutside (liftM (Session.request call) : Operation call.Reply) := by
  rintro log result hr event hevent
  obtain ⟨reply, hlog, -⟩ := runs_lift.1 hr
  rw [Session.runs_request.1 hlog] at hevent
  exact List.mem_singleton.1 hevent ▸ h reply

theorem bind {op : Operation β} {f : β → Operation α} (h : StaysOutside op)
    (hf : ∀ b, StaysOutside (f b)) : StaysOutside (op >>= f) := by
  intro log result hr event hevent
  rcases runs_bind.1 hr with ⟨e, hop, -⟩ | ⟨first, b, rest, rfl, hop, hrest⟩
  · exact h log _ hop event hevent
  · exact (List.mem_append.1 hevent).elim (h first _ hop event) (hf b rest result hrest event)

end StaysOutside

theorem Settles.run {work : Work α} (ht : tolerates.OfDefinitions) (h : work.Obeys tolerates) :
    Settles tolerates (Transaction.run work) := by
  intro log result hr
  rcases Transaction.runs_run hr with ⟨e, rfl, rfl⟩ | ⟨body, outcome, tx, last, rfl, hwork, hend⟩
  · exact .inl ⟨fun event hevent => List.mem_singleton.1 hevent ▸ .refused e, e.toError, rfl⟩
  refine .inr ⟨[], body, last, rfl, by simp, ?_⟩
  rcases h 0 body outcome tx hwork with ⟨a, rfl, -, hpassed⟩ | ⟨error, e, rfl, hfirst, hstopped⟩
  · cases hend with
    | committed =>
      exact ⟨hpassed.inside, .inl ⟨rfl, hpassed.absorbed_all⟩, fun b _ => ⟨rfl, hpassed.clean⟩⟩
    | uncommitted e =>
      exact ⟨hpassed.inside, .inl ⟨rfl, hpassed.absorbed_all⟩, fun b hok => by cases hok⟩
  · cases hend with
    | rolledBack reply =>
      refine ⟨hstopped.inside, .inr ⟨rfl, e, hstopped.first ht, ?_⟩, fun b hok => by cases hok⟩
      rw [hfirst]
      rfl

theorem Settles.after {op : Operation β} {f : β → Operation α} (h : StaysOutside op)
    (hf : ∀ b, Settles tolerates (f b)) : Settles tolerates (op >>= f) := by
  intro log result hr
  rcases runs_bind.1 hr with ⟨e, hop, rfl⟩ | ⟨first, b, rest, rfl, hop, hrest⟩
  · exact .inl ⟨h log _ hop, e, rfl⟩
  have hfirst := h first _ hop
  rcases hf b rest result hrest with ⟨hrest, herror⟩ | ⟨before, body, last, rfl, hbefore, hsettled⟩
  · exact .inl ⟨fun event hevent => (List.mem_append.1 hevent).elim (hfirst event) (hrest event),
      herror⟩
  · exact .inr ⟨first ++ before, body, last, (List.append_assoc ..).symm,
      fun event hevent => (List.mem_append.1 hevent).elim (hfirst event) (hbefore event), hsettled⟩

theorem Settles.map {op : Operation β} (h : Settles tolerates op) (f : β → α) :
    Settles tolerates (op >>= fun b => pure (f b)) := by
  intro log result hr
  obtain ⟨outcome, hop, rfl⟩ : ∃ outcome, op.Runs log outcome ∧ result = outcome.map f := by
    rcases runs_bind.1 hr with ⟨e, hop, rfl⟩ | ⟨first, b, rest, rfl, hop, rfl, rfl⟩
    · exact ⟨.error e, hop, rfl⟩
    · exact ⟨.ok b, by rwa [List.append_nil], rfl⟩
  rcases h log outcome hop with
    ⟨houtside, e, rfl⟩ | ⟨before, body, last, rfl, hbefore, hsettled⟩
  · exact .inl ⟨houtside, e, rfl⟩
  · exact .inr ⟨before, body, last, rfl, hbefore, hsettled.map f⟩

end Operation
end DocSql
