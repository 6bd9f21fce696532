import DocSql.Session.Basic

/-!
Transactions. A statement that fails aborts the transaction, and what the
engine says after that hides the reason, so the first failure is kept and
reported at the end. A failure that was expected is absorbed at a savepoint.
-/
namespace DocSql

structure Transaction where
  firstError : Option EngineError := none
  savepoints : Nat := 0
deriving Inhabited

abbrev Step := StateT Transaction Session

namespace Step

def record {α : Type} (reply : Except EngineError α) : Step (Except EngineError α) := do
  if let .error e := reply then
    modify fun tx => { tx with firstError := tx.firstError.or (some e) }
  return reply

def query (statement : Statement) : Step (Except EngineError (List Row)) := do
  record (← Session.request (.queryInside statement))

def execute (statement : Statement) : Step (Except EngineError Nat) := do
  record (← Session.request (.executeInside statement))

def savepoint (n : Nat) : String := "pgdoc_sp_" ++ toString n

/-- Runs a statement at a savepoint of its own. A failure that `benign` accepts
is undone and absorbed; the result says whether the statement took effect. -/
def absorbing (statement : Statement) (benign : EngineError → Bool) :
    Step (Except EngineError Bool) := do
  modify fun tx => { tx with savepoints := tx.savepoints + 1 }
  let name := savepoint (← get).savepoints
  match ← execute { sql := "SAVEPOINT " ++ name } with
  | .error e => return .error e
  | .ok _ =>
    match ← Session.request (.executeInside statement) with
    | .ok _ =>
      return (← execute { sql := "RELEASE SAVEPOINT " ++ name }).map fun _ => true
    | .error e =>
      if benign e then
        return (← execute { sql := "ROLLBACK TO SAVEPOINT " ++ name }).map fun _ => false
      else record (.error e)

end Step

abbrev Work := ExceptT Error Step

namespace Work

def ofStep {α : Type} (step : Step (Except EngineError α)) : Work α := do
  match ← step with
  | .ok a => pure a
  | .error e => throw e.toError

def query (statement : Statement) : Work (List Row) := ofStep (Step.query statement)

def execute (statement : Statement) : Work Unit := do
  let _ ← ofStep (Step.execute statement)

def absorbing (statement : Statement) (benign : EngineError → Bool) : Work Bool :=
  ofStep (Step.absorbing statement benign)

end Work

namespace Transaction

/-- Ends a transaction: commits a success, rolls back a failure and reports the
first one that a statement had. -/
def finish {α : Type} (tx : Transaction) (outcome : Except Error α) : Operation α := do
  match outcome with
  | .ok a =>
    let _ ← Operation.ofReply (← Session.request .commit)
    return a
  | .error e =>
    let _ ← Session.request .rollback
    throw ((tx.firstError.map EngineError.toError).getD e)

def run {α : Type} (work : Work α) : Operation α := do
  let _ ← Operation.ofReply (← Session.request .start)
  let (outcome, tx) ← (work.run.run {} : Session _)
  tx.finish outcome

end Transaction
end DocSql
