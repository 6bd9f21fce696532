import DocSql.Proofs.Session.Runs
import Mathlib.Data.List.TakeWhile

/-!
What is said in a transaction. Work stops at the first failure that it does not
absorb; until then every statement has succeeded or was undone at a savepoint
of its own. Statements say by their first word what they do, and which failures
work goes on after depends on the statement and the failure alone. Main
statements: the ways that an attempt and a whole transaction may go, and that
work built of parts that obey their limits obeys them as well.
-/
namespace DocSql

namespace Statement

def verb (s : Statement) : List Char := s.sql.toList.takeWhile (· ≠ ' ')

theorem verb_append {start : String} (rest : String) (params : List Datum)
    (h : ' ' ∈ start.toList) :
    verb ⟨start ++ rest, params⟩ = start.toList.takeWhile (· ≠ ' ') := by
  have hstop : (start.toList.takeWhile (· ≠ ' ')).length ≠ start.toList.length := by
    intro hlength
    have hall := (List.takeWhile_prefix (· ≠ ' ')).eq_of_length hlength
    exact absurd (List.takeWhile_eq_self_iff.1 hall ' ' h) (by decide)
  unfold verb
  rw [String.toList_append, List.takeWhile_append, if_neg hstop]

def mark (n : Nat) : Statement := { sql := "SAVEPOINT " ++ Step.savepoint n }
def release (n : Nat) : Statement := { sql := "RELEASE SAVEPOINT " ++ Step.savepoint n }
def undo (n : Nat) : Statement := { sql := "ROLLBACK TO SAVEPOINT " ++ Step.savepoint n }

theorem verb_mark (n : Nat) : (mark n).verb = "SAVEPOINT".toList := verb_append _ _ (by decide)
theorem verb_release (n : Nat) : (release n).verb = "RELEASE".toList := verb_append _ _ (by decide)
theorem verb_undo (n : Nat) : (undo n).verb = "ROLLBACK".toList := verb_append _ _ (by decide)

end Statement

namespace Event

def executed (statement : Statement) (count : Nat) : Event := ⟨.executeInside statement, .ok count⟩

def failed (statement : Statement) (e : EngineError) : Event :=
  ⟨.executeInside statement, .error e⟩

def found (statement : Statement) (rows : List Row) : Event := ⟨.queryInside statement, .ok rows⟩

def unfound (statement : Statement) (e : EngineError) : Event :=
  ⟨.queryInside statement, .error e⟩

def begun : Event := ⟨.start, .ok ()⟩

end Event

namespace Work

variable {α β : Type} {tx after : Transaction} {log : List Event} {out : Except Error α}

def Runs (w : Work α) (tx : Transaction) (log : List Event) (out : Except Error α)
    (after : Transaction) : Prop :=
  Session.Runs (w.run.run tx) log (out, after)

theorem runs_pure {a : α} :
    (pure a : Work α).Runs tx log out after ↔ log = [] ∧ out = .ok a ∧ after = tx := by
  constructor
  · rintro ⟨rfl, h⟩
    cases h
    exact ⟨rfl, rfl, rfl⟩
  · rintro ⟨rfl, rfl, rfl⟩
    exact ⟨rfl, rfl⟩

theorem runs_bind {w : Work β} {f : β → Work α} :
    (w >>= f).Runs tx log out after ↔
      (∃ e, w.Runs tx log (.error e) after ∧ out = .error e) ∨
      ∃ first b middle rest, log = first ++ rest ∧ w.Runs tx first (.ok b) middle ∧
        (f b).Runs middle rest out after := by
  have hbind : ((w >>= f).run.run tx : Session _) =
      w.run.run tx >>= fun p => (ExceptT.bindCont f p.1).run p.2 := rfl
  unfold Runs
  rw [hbind, Session.runs_bind]
  constructor
  · rintro ⟨first, ⟨outcome, middle⟩, rest, rfl, hfirst, hrest⟩
    cases outcome with
    | ok b => exact .inr ⟨first, b, middle, rest, rfl, hfirst, hrest⟩
    | error e =>
      obtain ⟨rfl, hout⟩ := hrest
      cases hout
      exact .inl ⟨e, by rwa [List.append_nil], rfl⟩
  · rintro (⟨e, h, rfl⟩ | ⟨first, b, middle, rest, rfl, hfirst, hrest⟩)
    · exact ⟨log, (.error e, after), [], (List.append_nil log).symm, h, rfl, rfl⟩
    · exact ⟨first, (.ok b, middle), rest, rfl, hfirst, hrest⟩

end Work

namespace Transaction

def noting {α : Type} (tx : Transaction) : Except EngineError α → Transaction
  | .ok _ => tx
  | .error e => { tx with firstError := tx.firstError.or (some e) }

def conclude (tx : Transaction) (applied : Bool) (reply : Except EngineError Nat) :
    Session (Except Error Bool × Transaction) :=
  .done ((reply.map fun _ => applied).mapError EngineError.toError, tx.noting reply)

end Transaction

/-- The ways a statement may go that is tried at its own savepoint, and whether
it took effect in the end. -/
inductive Attempt (statement : Statement) (benign : EngineError → Bool) (n : Nat) :
    List Event → Except EngineError Bool → Prop
  | unmarked (e : EngineError) : Attempt statement benign n [.failed (.mark n) e] (.error e)
  | applied (marked count released : Nat) : Attempt statement benign n
    [.executed (.mark n) marked, .executed statement count, .executed (.release n) released]
    (.ok true)
  | unreleased (marked count : Nat) (e : EngineError) : Attempt statement benign n
    [.executed (.mark n) marked, .executed statement count, .failed (.release n) e] (.error e)
  | absorbed (marked undone : Nat) {e : EngineError} (h : benign e) : Attempt statement benign n
    [.executed (.mark n) marked, .failed statement e, .executed (.undo n) undone] (.ok false)
  | stuck (marked : Nat) {e : EngineError} (h : benign e) (e' : EngineError) :
    Attempt statement benign n
      [.executed (.mark n) marked, .failed statement e, .failed (.undo n) e'] (.error e')
  | refused (marked : Nat) {e : EngineError} (h : benign e = false) : Attempt statement benign n
    [.executed (.mark n) marked, .failed statement e] (.error e)

namespace Work

variable {statement : Statement} {tx after : Transaction} {log : List Event}

theorem runs_execute {out : Except Error Unit} :
    (execute statement).Runs tx log out after ↔
      (∃ count, log = [.executed statement count] ∧ out = .ok () ∧ after = tx) ∨
      ∃ e, log = [.failed statement e] ∧ out = .error e.toError ∧
        after = tx.noting (.error e : Except EngineError Unit) := by
  constructor
  · rintro ⟨reply, _, rfl, h⟩
    cases reply with
    | ok count =>
      obtain ⟨rfl, h⟩ := h
      cases h
      exact .inl ⟨count, rfl, rfl, rfl⟩
    | error e =>
      obtain ⟨rfl, h⟩ := h
      cases h
      exact .inr ⟨e, rfl, rfl, rfl⟩
  · rintro (⟨count, rfl, rfl, rfl⟩ | ⟨e, rfl, rfl, rfl⟩)
    · exact ⟨.ok count, [], rfl, rfl, rfl⟩
    · exact ⟨.error e, [], rfl, rfl, rfl⟩

theorem runs_query {out : Except Error (List Row)} :
    (query statement).Runs tx log out after ↔
      (∃ rows, log = [.found statement rows] ∧ out = .ok rows ∧ after = tx) ∨
      ∃ e, log = [.unfound statement e] ∧ out = .error e.toError ∧
        after = tx.noting (.error e : Except EngineError Unit) := by
  constructor
  · rintro ⟨reply, _, rfl, h⟩
    cases reply with
    | ok rows =>
      obtain ⟨rfl, h⟩ := h
      cases h
      exact .inl ⟨rows, rfl, rfl, rfl⟩
    | error e =>
      obtain ⟨rfl, h⟩ := h
      cases h
      exact .inr ⟨e, rfl, rfl, rfl⟩
  · rintro (⟨rows, rfl, rfl, rfl⟩ | ⟨e, rfl, rfl, rfl⟩)
    · exact ⟨.ok rows, [], rfl, rfl, rfl⟩
    · exact ⟨.error e, [], rfl, rfl, rfl⟩

theorem run_absorbing (statement : Statement) (benign : EngineError → Bool) (tx : Transaction) :
    let n := tx.savepoints + 1
    let conclude := Transaction.conclude { tx with savepoints := n }
    ∃ marked tried,
      ((absorbing statement benign).run.run tx : Session (Except Error Bool × Transaction)) =
        .ask (.executeInside (.mark n)) marked ∧
      (∀ e, marked (.error e) = conclude false (.error e)) ∧
      (∀ count, marked (.ok count) = .ask (.executeInside statement) tried) ∧
      (∀ count, tried (.ok count) = .ask (.executeInside (.release n)) (conclude true)) ∧
      ∀ e, tried (.error e) =
        if benign e then .ask (.executeInside (.undo n)) (conclude false)
        else conclude false (.error e) := by
  refine ⟨_, _, rfl, fun e => rfl, fun _ => rfl, fun _ => ?_, fun e => ?_⟩
  · change Session.ask _ _ = _
    congr 1
    funext reply
    cases reply with
    | ok count => rfl
    | error e => rfl
  · change Session.bind (Session.bind
      ((if benign e then _ else _ : Step (Except EngineError Bool)) _) _) _ = _
    cases benign e with
    | true =>
      change Session.ask _ _ = Session.ask _ _
      congr 1
      funext reply
      cases reply with
      | ok count => rfl
      | error e => rfl
    | false => rfl

theorem runs_absorbing {benign : EngineError → Bool} {out : Except Error Bool}
    (h : (absorbing statement benign).Runs tx log out after) :
    ∃ result, Attempt statement benign (tx.savepoints + 1) log result ∧
      out = result.mapError EngineError.toError ∧
      after = ({ tx with savepoints := tx.savepoints + 1 } : Transaction).noting result := by
  obtain ⟨marked, tried, hrun, hunmarked, hmarked, happlied, hfailed⟩ :=
    run_absorbing statement benign tx
  unfold Runs at h
  rw [hrun] at h
  obtain ⟨reply, _, rfl, h⟩ := h
  cases reply with
  | error e =>
    rw [hunmarked] at h
    obtain ⟨rfl, h⟩ := h
    cases h
    exact ⟨_, .unmarked e, rfl, rfl⟩
  | ok count =>
    rw [hmarked] at h
    obtain ⟨reply, _, rfl, h⟩ := h
    cases reply with
    | ok applied =>
      rw [happlied] at h
      obtain ⟨reply, _, rfl, rfl, h⟩ := h
      cases h
      cases reply with
      | ok released => exact ⟨_, .applied count applied released, rfl, rfl⟩
      | error e => exact ⟨_, .unreleased count applied e, rfl, rfl⟩
    | error e =>
      rw [hfailed] at h
      cases hb : benign e with
      | true =>
        rw [hb] at h
        obtain ⟨reply, _, rfl, rfl, h⟩ := h
        cases h
        cases reply with
        | ok undone => exact ⟨_, .absorbed count undone hb, rfl, rfl⟩
        | error e' => exact ⟨_, .stuck count hb e', rfl, rfl⟩
      | false =>
        rw [hb] at h
        obtain ⟨rfl, h⟩ := h
        cases h
        exact ⟨_, .refused count hb, rfl, rfl⟩

theorem runs_bind_ok {α β : Type} {w : Work β} {f : β → Work α} {a : α}
    (h : (w >>= f).Runs tx log (.ok a) after) :
    ∃ first b middle rest, log = first ++ rest ∧ w.Runs tx first (.ok b) middle ∧
      (f b).Runs middle rest (.ok a) after := by
  rcases runs_bind.1 h with ⟨e, -, hout⟩ | hruns
  · cases hout
  · exact hruns

theorem runs_execute_ok (h : (execute statement).Runs tx log (.ok ()) after) :
    ∃ count, log = [.executed statement count] := by
  rcases runs_execute.1 h with ⟨count, rfl, -⟩ | ⟨e, -, hout, -⟩
  · exact ⟨count, rfl⟩
  · cases hout

theorem runs_query_ok {rows : List Row} (h : (query statement).Runs tx log (.ok rows) after) :
    log = [.found statement rows] := by
  rcases runs_query.1 h with ⟨found, rfl, hout, -⟩ | ⟨e, -, hout, -⟩
  · cases hout
    rfl
  · cases hout

theorem runs_absorbing_ok {benign : EngineError → Bool} {applied : Bool}
    (h : (absorbing statement benign).Runs tx log (.ok applied) after) :
    Attempt statement benign (tx.savepoints + 1) log (.ok applied) := by
  obtain ⟨result, hattempt, hout, -⟩ := runs_absorbing h
  cases result with
  | error e => cases hout
  | ok b =>
    cases hout
    exact hattempt

end Work

/-- The ways a transaction may end: the outcome of its work, the last of the
exchange, and the result. -/
inductive Ending {α : Type} (tx : Transaction) :
    Except Error α → Event → Except Error α → Prop
  | committed {a : α} : Ending tx (.ok a) ⟨.commit, .ok ()⟩ (.ok a)
  | uncommitted {a : α} (e : EngineError) : Ending tx (.ok a) ⟨.commit, .error e⟩ (.error e.toError)
  | rolledBack {e : Error} (reply : Call.Reply .rollback) :
    Ending tx (.error e) ⟨.rollback, reply⟩
      (.error ((tx.firstError.map EngineError.toError).getD e))

theorem Transaction.runs_run {α : Type} {work : Work α} {log : List Event} {result : Except Error α}
    (h : (Transaction.run work).Runs log result) :
    (∃ e, log = [⟨.start, .error e⟩] ∧ result = .error e.toError) ∨
    ∃ body outcome tx last, log = .begun :: (body ++ [last]) ∧ work.Runs {} body outcome tx ∧
      Ending tx outcome last result := by
  obtain ⟨reply, _, rfl, h⟩ := h
  cases reply with
  | error e =>
    obtain ⟨rfl, rfl⟩ := h
    exact .inl ⟨e, rfl, rfl⟩
  | ok =>
    change Operation.Runs (liftM (work.run.run {} : Session _) >>= fun p => p.2.finish p.1) _ _ at h
    rcases Operation.runs_bind.1 h with
      ⟨_, hlift, -⟩ | ⟨body, ⟨outcome, tx⟩, rest, rfl, hlift, hend⟩
    · obtain ⟨_, -, hok⟩ := Operation.runs_lift.1 hlift
      cases hok
    obtain ⟨_, hwork, hok⟩ := Operation.runs_lift.1 hlift
    cases hok
    obtain ⟨last, rfl, hlast⟩ : ∃ last, rest = [last] ∧ Ending tx outcome last result := by
      cases outcome with
      | ok a =>
        obtain ⟨reply, _, rfl, hend⟩ := hend
        cases reply with
        | ok =>
          obtain ⟨rfl, rfl⟩ := hend
          exact ⟨_, rfl, .committed⟩
        | error e =>
          obtain ⟨rfl, rfl⟩ := hend
          exact ⟨_, rfl, .uncommitted e⟩
      | error e =>
        obtain ⟨reply, _, rfl, rfl, rfl⟩ := hend
        exact ⟨_, rfl, .rolledBack reply⟩
    exact .inr ⟨body, outcome, tx, last, rfl, hwork, hlast⟩

/-- The failures that work goes on after, by the statement that fails. -/
abbrev Tolerance := Statement → EngineError → Bool

namespace Tolerance

def none : Tolerance := fun _ _ => false

def OfDefinitions (tolerates : Tolerance) : Prop :=
  ∀ statement e, tolerates statement e →
    statement.verb = "CREATE".toList ∨ statement.verb = "ALTER".toList

variable {tolerates : Tolerance} {statement : Statement}

theorem OfDefinitions.untolerated (ht : tolerates.OfDefinitions)
    (hc : statement.verb ≠ "CREATE".toList) (ha : statement.verb ≠ "ALTER".toList)
    (e : EngineError) : tolerates statement e = false := by
  cases h : tolerates statement e with
  | false => rfl
  | true =>
    rcases ht statement e h with hverb | hverb
    · exact absurd hverb hc
    · exact absurd hverb ha

theorem OfDefinitions.mark (ht : tolerates.OfDefinitions) (n : Nat) (e : EngineError) :
    tolerates (.mark n) e = false :=
  ht.untolerated (by rw [Statement.verb_mark]; decide) (by rw [Statement.verb_mark]; decide) e

theorem OfDefinitions.release (ht : tolerates.OfDefinitions) (n : Nat) (e : EngineError) :
    tolerates (.release n) e = false :=
  ht.untolerated (by rw [Statement.verb_release]; decide)
    (by rw [Statement.verb_release]; decide) e

theorem OfDefinitions.undo (ht : tolerates.OfDefinitions) (n : Nat) (e : EngineError) :
    tolerates (.undo n) e = false :=
  ht.untolerated (by rw [Statement.verb_undo]; decide) (by rw [Statement.verb_undo]; decide) e

end Tolerance

/-- A statement of its own: it sets no savepoint and no failure of it is tolerated. -/
structure Statement.IsPlain (tolerates : Tolerance) (statement : Statement) : Prop where
  verb : statement.verb ≠ "SAVEPOINT".toList
  untolerated : ∀ e, tolerates statement e = false

/-- A statement whose failures are tolerated where they are benign. -/
structure Statement.IsTried (tolerates : Tolerance) (benign : EngineError → Bool)
    (statement : Statement) : Prop where
  verb : statement.verb ≠ "SAVEPOINT".toList
  tolerated : ∀ e, tolerates statement e = benign e

/-- A part of an exchange after which work goes on, from one number of
savepoints to another. -/
inductive Segment (tolerates : Tolerance) : Nat → List Event → Nat → Prop
  | found (n : Nat) (statement : Statement) (rows : List Row) :
    Segment tolerates n [.found statement rows] n
  | executed (n count : Nat) {statement : Statement} (h : statement.verb ≠ "SAVEPOINT".toList) :
    Segment tolerates n [.executed statement count] n
  | applied (n marked count released : Nat) {statement : Statement}
    (h : statement.verb ≠ "SAVEPOINT".toList) :
    Segment tolerates n [.executed (.mark (n + 1)) marked, .executed statement count,
      .executed (.release (n + 1)) released] (n + 1)
  | absorbed (n marked undone : Nat) {statement : Statement} {e : EngineError}
    (h : statement.verb ≠ "SAVEPOINT".toList) (ht : tolerates statement e) :
    Segment tolerates n [.executed (.mark (n + 1)) marked, .failed statement e,
      .executed (.undo (n + 1)) undone] (n + 1)

/-- An exchange in which nothing stopped the work. -/
inductive Passed (tolerates : Tolerance) : Nat → List Event → Nat → Prop
  | nil (n : Nat) : Passed tolerates n [] n
  | cons {n m k : Nat} {first rest : List Event} (h : Segment tolerates n first m)
    (hr : Passed tolerates m rest k) : Passed tolerates n (first ++ rest) k

theorem Passed.single {tolerates : Tolerance} {n m : Nat} {log : List Event} (h : Segment tolerates n log m) :
    Passed tolerates n log m := by
  rw [← List.append_nil log]
  exact .cons h (.nil m)

theorem Passed.append {tolerates : Tolerance} {n m k : Nat} {first rest : List Event}
    (h : Passed tolerates n first m) (hr : Passed tolerates m rest k) :
    Passed tolerates n (first ++ rest) k := by
  induction h with
  | nil n => exact hr
  | cons h _ ih =>
    rw [List.append_assoc]
    exact .cons h (ih hr)

/-- The last statements of work that a failure stops. -/
inductive Halt (tolerates : Tolerance) (n : Nat) : List Event → EngineError → Prop
  | unfound (statement : Statement) (e : EngineError) :
    Halt tolerates n [.unfound statement e] e
  | failed {statement : Statement} {e : EngineError} (h : tolerates statement e = false) :
    Halt tolerates n [.failed statement e] e
  | refused (marked : Nat) {statement : Statement} {e : EngineError}
    (h : tolerates statement e = false) :
    Halt tolerates n [.executed (.mark (n + 1)) marked, .failed statement e] e
  | unreleased (marked count : Nat) (statement : Statement) (e : EngineError) :
    Halt tolerates n [.executed (.mark (n + 1)) marked, .executed statement count,
      .failed (.release (n + 1)) e] e
  | stuck (marked : Nat) {statement : Statement} {e : EngineError} (h : tolerates statement e)
    (e' : EngineError) :
    Halt tolerates n [.executed (.mark (n + 1)) marked, .failed statement e,
      .failed (.undo (n + 1)) e'] e'

def Stopped (tolerates : Tolerance) (n : Nat) (log : List Event) (e : EngineError) : Prop :=
  ∃ before m last, log = before ++ last ∧ Passed tolerates n before m ∧ Halt tolerates m last e

namespace Work

variable {α β : Type} {tolerates : Tolerance}

/-- Work that goes on after the failures it tolerates and no others. -/
def Obeys (tolerates : Tolerance) (w : Work α) : Prop :=
  ∀ n log out after, w.Runs { savepoints := n } log out after →
    (∃ a, out = .ok a ∧ after.firstError = none ∧ Passed tolerates n log after.savepoints) ∨
    ∃ error e, out = .error error ∧ after.firstError = some e ∧ Stopped tolerates n log e

theorem Obeys.pure (a : α) : Obeys tolerates (pure a : Work α) := by
  intro n log out after h
  obtain ⟨rfl, rfl, rfl⟩ := runs_pure.1 h
  exact .inl ⟨a, rfl, rfl, .nil n⟩

theorem Obeys.bind {w : Work β} {f : β → Work α} (h : Obeys tolerates w)
    (hf : ∀ b, Obeys tolerates (f b)) : Obeys tolerates (w >>= f) := by
  intro n log out after hr
  rcases runs_bind.1 hr with ⟨error, hw, rfl⟩ | ⟨first, b, middle, rest, rfl, hw, hrest⟩
  · rcases h n log _ after hw with ⟨a, hok, -⟩ | ⟨error', e, -, hfirst, hstop⟩
    · cases hok
    · exact .inr ⟨error, e, rfl, hfirst, hstop⟩
  · rcases h n first _ middle hw with ⟨b', -, hnone, hpassed⟩ | ⟨error, e, herror, -⟩
    · obtain ⟨firstError, savepoints⟩ := middle
      cases hnone
      rcases hf b savepoints rest out after hrest with
        ⟨a, rfl, hafter, hmore⟩ | ⟨error, e, rfl, hafter, before, m, last, rfl, hmore, hhalt⟩
      · exact .inl ⟨a, rfl, hafter, hpassed.append hmore⟩
      · exact .inr ⟨error, e, rfl, hafter, first ++ before, m, last,
          (List.append_assoc first before last).symm, hpassed.append hmore, hhalt⟩
    · cases herror

theorem Obeys.execute {statement : Statement} (h : statement.IsPlain tolerates) :
    Obeys tolerates (execute statement) := by
  intro n log out after hr
  rcases runs_execute.1 hr with ⟨count, rfl, rfl, rfl⟩ | ⟨e, rfl, rfl, rfl⟩
  · exact .inl ⟨(), rfl, rfl, .single (.executed n count h.verb)⟩
  · exact .inr ⟨_, e, rfl, rfl, [], n, _, rfl, .nil n, .failed (h.untolerated e)⟩

theorem Obeys.query (statement : Statement) : Obeys tolerates (query statement) := by
  intro n log out after hr
  rcases runs_query.1 hr with ⟨rows, rfl, rfl, rfl⟩ | ⟨e, rfl, rfl, rfl⟩
  · exact .inl ⟨rows, rfl, rfl, .single (.found n statement rows)⟩
  · exact .inr ⟨_, e, rfl, rfl, [], n, _, rfl, .nil n, .unfound statement e⟩

theorem Obeys.absorbing {statement : Statement} {benign : EngineError → Bool}
    (ht : tolerates.OfDefinitions) (h : statement.IsTried tolerates benign) :
    Obeys tolerates (absorbing statement benign) := by
  intro n log out after hr
  obtain ⟨result, hattempt, rfl, rfl⟩ := runs_absorbing hr
  cases hattempt with
  | unmarked e => exact .inr ⟨_, e, rfl, rfl, [], n, _, rfl, .nil n, .failed (ht.mark _ e)⟩
  | applied marked count released =>
    exact .inl ⟨true, rfl, rfl, .single (.applied n marked count released h.verb)⟩
  | unreleased marked count e =>
    exact .inr ⟨_, e, rfl, rfl, [], n, _, rfl, .nil n, .unreleased marked count statement e⟩
  | @absorbed marked undone e hb =>
    exact .inl ⟨false, rfl, rfl, .single (.absorbed n marked undone h.verb (by rwa [h.tolerated]))⟩
  | stuck marked hb e' =>
    exact .inr ⟨_, e', rfl, rfl, [], n, _, rfl, .nil n, .stuck marked (by rwa [h.tolerated]) e'⟩
  | refused marked hb =>
    exact .inr ⟨_, _, rfl, rfl, [], n, _, rfl, .nil n, .refused marked (by rwa [h.tolerated])⟩

theorem Obeys.forM {f : β → Work Unit} {items : List β} (h : ∀ b ∈ items, Obeys tolerates (f b)) :
    Obeys tolerates (items.forM f) := by
  induction items with
  | nil => exact .pure ()
  | cons b rest ih =>
    exact (h b List.mem_cons_self).bind fun _ => ih fun c hc => h c (List.mem_cons_of_mem b hc)

end Work
end DocSql
