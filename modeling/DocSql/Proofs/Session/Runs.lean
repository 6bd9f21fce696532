import DocSql.Session.Transaction

/-!
Runs of a session: what was asked and replied until its result. An engine may
reply to a call as it likes, so what holds of every run holds under every
behaviour of the engine. Main statement: a run of two sessions in sequence is a
run of the first and then one of the second.
-/
namespace DocSql

/-- A call and the reply it got. -/
structure Event where
  call : Call
  reply : call.Reply

/-- What an engine replies to a call after what was said before. -/
abbrev Engine := List Event → (call : Call) → call.Reply

/-- An engine that executes everything and answers every question with these rows. -/
def Store.answering (rows : List Row) : Engine := fun _ call =>
  match call with
  | .query _ | .queryInside _ => .ok rows
  | .execute _ | .executeInside _ => .ok (1 : Nat)
  | .start | .commit | .rollback => .ok ()

namespace Session

variable {α β : Type}

def Runs : Session α → List Event → α → Prop
  | done a, log, b => log = [] ∧ a = b
  | ask call next, log, b => ∃ reply rest, log = ⟨call, reply⟩ :: rest ∧ Runs (next reply) rest b

def run (engine : Engine) (said : List Event) : Session α → List Event × α
  | done a => ([], a)
  | ask call next =>
    let event : Event := ⟨call, engine said call⟩
    let (log, a) := run engine (said ++ [event]) (next event.reply)
    (event :: log, a)

theorem run_runs (engine : Engine) (said : List Event) (s : Session α) :
    s.Runs (s.run engine said).1 (s.run engine said).2 := by
  induction s generalizing said with
  | done a => exact ⟨rfl, rfl⟩
  | ask call next ih => exact ⟨engine said call, _, rfl, ih _ _⟩

theorem run_bind (engine : Engine) (said : List Event) (s : Session α) (f : α → Session β) :
    run engine said (s >>= f) =
      ((run engine said s).1 ++
          (run engine (said ++ (run engine said s).1) (f (run engine said s).2)).1,
        (run engine (said ++ (run engine said s).1) (f (run engine said s).2)).2) := by
  induction s generalizing said with
  | done a =>
    change run engine said (f a) = ([] ++ _, _)
    simp [run]
  | ask call next ih =>
    have hstep := ih (engine said call) (said ++ [⟨call, engine said call⟩])
    change (_ :: (run engine _ (next (engine said call) >>= f)).1,
      (run engine _ (next (engine said call) >>= f)).2) = _
    rw [hstep]
    simp [run]

theorem runs_request {call : Call} {log : List Event} {reply : call.Reply} :
    (request call).Runs log reply ↔ log = [⟨call, reply⟩] := by
  constructor
  · rintro ⟨_, _, rfl, rfl, rfl⟩
    rfl
  · rintro rfl
    exact ⟨reply, [], rfl, rfl, rfl⟩

theorem runs_bind {s : Session α} {f : α → Session β} {log : List Event} {b : β} :
    (s >>= f).Runs log b ↔
      ∃ first a rest, log = first ++ rest ∧ s.Runs first a ∧ (f a).Runs rest b := by
  induction s generalizing log with
  | done a =>
    constructor
    · intro h
      exact ⟨[], a, log, rfl, ⟨rfl, rfl⟩, h⟩
    · rintro ⟨_, _, rest, rfl, ⟨rfl, rfl⟩, h⟩
      exact h
  | ask call next ih =>
    constructor
    · rintro ⟨reply, rest, rfl, h⟩
      obtain ⟨first, a, rest, rfl, hfirst, hrest⟩ := (ih reply).1 h
      exact ⟨⟨call, reply⟩ :: first, a, rest, rfl, ⟨reply, first, rfl, hfirst⟩, hrest⟩
    · rintro ⟨_, a, rest, rfl, ⟨reply, first, rfl, hfirst⟩, hrest⟩
      exact ⟨reply, first ++ rest, rfl, (ih reply).2 ⟨first, a, rest, rfl, hfirst, hrest⟩⟩

end Session

namespace Operation

variable {α β : Type} {log : List Event} {result : Except Error α}

def Runs (op : Operation α) (log : List Event) (result : Except Error α) : Prop :=
  Session.Runs op.run log result

/-- The exchange of an operation with an engine, and what it comes to. -/
def exchange (op : Operation α) (engine : Engine) : List Event × Except Error α :=
  Session.run engine [] op.run

theorem exchange_runs (op : Operation α) (engine : Engine) :
    op.Runs (op.exchange engine).1 (op.exchange engine).2 :=
  Session.run_runs engine [] op.run

theorem runs_lift {s : Session α} :
    (liftM s : Operation α).Runs log result ↔ ∃ a, s.Runs log a ∧ result = .ok a := by
  have hlift : (liftM s : Operation α).run = s >>= fun a => pure (.ok a) := rfl
  unfold Runs
  rw [hlift, Session.runs_bind]
  constructor
  · rintro ⟨first, a, rest, rfl, hfirst, rfl, rfl⟩
    exact ⟨a, by rwa [List.append_nil], rfl⟩
  · rintro ⟨a, h, rfl⟩
    exact ⟨log, a, [], (List.append_nil log).symm, h, rfl, rfl⟩

theorem runs_bind {op : Operation β} {f : β → Operation α} :
    (op >>= f).Runs log result ↔
      (∃ e, op.Runs log (.error e) ∧ result = .error e) ∨
      ∃ first b rest, log = first ++ rest ∧ op.Runs first (.ok b) ∧ (f b).Runs rest result := by
  have hbind : (op >>= f).run = op.run >>= ExceptT.bindCont f := rfl
  unfold Runs
  rw [hbind, Session.runs_bind]
  constructor
  · rintro ⟨first, outcome, rest, rfl, hfirst, hrest⟩
    cases outcome with
    | ok b => exact .inr ⟨first, b, rest, rfl, hfirst, hrest⟩
    | error e =>
      obtain ⟨rfl, rfl⟩ := hrest
      exact .inl ⟨e, by rwa [List.append_nil], rfl⟩
  · rintro (⟨e, h, rfl⟩ | ⟨first, b, rest, rfl, hfirst, hrest⟩)
    · exact ⟨log, .error e, [], (List.append_nil log).symm, h, rfl, rfl⟩
    · exact ⟨first, .ok b, rest, rfl, hfirst, hrest⟩

theorem lift_ok_bind (a : α) (more : α → Operation β) :
    (liftM (Except.ok a : Except Error α) >>= more) = more a := rfl

theorem lift_error_bind {work : Except Error α} {e : Error} (h : work = .error e)
    (more : α → Operation β) : (liftM work >>= more) = throw e := by
  rw [h]
  rfl

theorem run_bind_ok {engine : Engine} {said log : List Event} {op : Operation α} {a : α}
    (h : Session.run engine said op.run = (log, .ok a)) (f : α → Operation β) :
    Session.run engine said (op >>= f).run =
      (log ++ (Session.run engine (said ++ log) (f a).run).1,
        (Session.run engine (said ++ log) (f a).run).2) := by
  have hbind : (op >>= f).run = op.run >>= ExceptT.bindCont f := rfl
  rw [hbind, Session.run_bind, h]
  rfl

theorem run_request_bind (engine : Engine) (said : List Event) (call : Call)
    (f : call.Reply → Operation α) {result : Except Error α}
    (h : (f (engine said call)).run = .done result) :
    Session.run engine said (do f (← Session.request call) : Operation α).run =
      ([⟨call, engine said call⟩], result) := by
  have hask : (do f (← Session.request call) : Operation α).run =
      .ask call fun reply => (f reply).run := rfl
  rw [hask, Session.run]
  dsimp only
  rw [h]
  rfl

end Operation
end DocSql
