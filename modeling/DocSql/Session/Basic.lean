import DocSql.Session.EngineError
import DocSql.Sql.Builder

/-!
Conversations with the engine. A session is what is asked next and how it goes
on after each possible reply, so it says what is done under every behaviour of
the engine without fixing one.
-/
namespace DocSql

/-- Requests; those of a transaction are apart from those outside one. -/
inductive Call
  | query (statement : Statement)
  | execute (statement : Statement)
  | start
  | queryInside (statement : Statement)
  | executeInside (statement : Statement)
  | commit
  | rollback
deriving Inhabited

def Call.Result : Call → Type
  | query _ | queryInside _ => List Row
  | execute _ | executeInside _ => Nat
  | start | commit | rollback => Unit

abbrev Call.Reply (call : Call) : Type := Except EngineError call.Result

inductive Session (α : Type)
  | done (result : α)
  | ask (call : Call) (next : call.Reply → Session α)

namespace Session

def bind {α β : Type} : Session α → (α → Session β) → Session β
  | done a, f => f a
  | ask call next, f => ask call fun reply => bind (next reply) f

instance : Monad Session where
  pure := done
  bind := bind

def request (call : Call) : Session call.Reply := ask call done

end Session

abbrev Operation := ExceptT Error Session

namespace Operation

def ofReply {α : Type} : Except EngineError α → Operation α
  | .ok a => pure a
  | .error e => throw e.toError

def query (statement : Statement) : Operation (List Row) := do
  ofReply (← Session.request (.query statement))

def execute (statement : Statement) : Operation Unit := do
  let _ ← ofReply (← Session.request (.execute statement))

end Operation
end DocSql
