import DocSql.Proofs.Session.Transactions
import Mathlib.Data.List.Forall2

/-!
Engines that refuse nothing, from the start or from some point on. Work whose
statements do not depend on replies then executes all of them, and its transaction
commits; of other work `Passes` says what its exchange looks like where no call
fails. Main statements: `Transaction.run_does` and `Transaction.run_passes`.
-/
namespace DocSql

def Engine.Succeeds (engine : Engine) : Prop := ∀ said call, (engine said call).isOk

theorem Store.answering_succeeds (rows : List Row) : (answering rows).Succeeds := by
  intro said call
  cases call with
  | _ => rfl

def Engine.SucceedsAfter (engine : Engine) (said : List Event) : Prop :=
  ∀ more call, (engine (said ++ more) call).isOk

theorem Engine.Succeeds.after {engine : Engine} (h : engine.Succeeds) (said : List Event) :
    engine.SucceedsAfter said := fun more call => h (said ++ more) call

theorem Session.run_succeedsAfter {α : Type} {engine : Engine} {said : List Event}
    (h : engine.SucceedsAfter said) (s : Session α) :
    ∀ event ∈ (s.run engine said).1, event.reply.isOk := by
  induction s generalizing said with
  | done a => exact nofun
  | ask call next ih =>
    refine List.forall_mem_cons.2 ⟨?_, ih _ fun more later => ?_⟩
    · simpa using h [] call
    · simpa using h (⟨call, engine said call⟩ :: more) later

theorem Session.run_succeeds {α : Type} {engine : Engine} (h : engine.Succeeds) (said : List Event)
    (s : Session α) : ∀ event ∈ (s.run engine said).1, event.reply.isOk :=
  run_succeedsAfter (h.after said) s

theorem Attempt.of_isOk {statement : Statement} {benign : EngineError → Bool} {n : Nat}
    {log : List Event} {result : Except EngineError Bool}
    (h : Attempt statement benign n log result) (hok : ∀ event ∈ log, event.reply.isOk) :
    (∃ marked count released, log = [.executed (.mark n) marked, .executed statement count,
      .executed (.release n) released]) ∧ result = .ok true := by
  cases h with
  | applied marked count released => exact ⟨⟨marked, count, released, rfl⟩, rfl⟩
  | unmarked => cases hok _ List.mem_cons_self
  | unreleased => cases hok _ (List.mem_cons_of_mem _ (List.mem_cons_of_mem _ List.mem_cons_self))
  | absorbed | stuck | refused => cases hok _ (List.mem_cons_of_mem _ List.mem_cons_self)

namespace Work

variable {α β : Type} {statements more : List Statement} {a : α}

/-- Unless a statement fails, the work comes to a result, and this holds of what
was said and of the result. -/
def Passes (w : Work α) (tx : Transaction) (Q : List Event → α → Prop) : Prop :=
  ∀ log out after, w.Runs tx log out after → (∀ event ∈ log, event.reply.isOk) →
    ∃ a, out = .ok a ∧ Q log a

section Passes

variable {tx : Transaction} {P Q : List Event → α → Prop} {R : List Event → β → Prop}
  {statement : Statement}

theorem Passes.pure (h : Q [] a) : Passes (pure a) tx Q := by
  intro log out after hr _
  obtain ⟨rfl, rfl, -⟩ := runs_pure.1 hr
  exact ⟨a, rfl, h⟩

theorem Passes.mono {w : Work α} (h : w.Passes tx P) (hpq : ∀ log a, P log a → Q log a) :
    w.Passes tx Q := by
  intro log out after hr hok
  obtain ⟨a, rfl, hp⟩ := h _ _ _ hr hok
  exact ⟨a, rfl, hpq _ _ hp⟩

theorem Passes.bind {w : Work β} {f : β → Work α} (h : w.Passes tx R)
    (hf : ∀ log b middle, R log b → (f b).Passes middle fun rest a => Q (log ++ rest) a) :
    (w >>= f).Passes tx Q := by
  intro log out after hr hok
  rcases runs_bind.1 hr with ⟨e, hw, rfl⟩ | ⟨first, b, middle, rest, rfl, hw, hrest⟩
  · obtain ⟨b, hb, -⟩ := h _ _ _ hw hok
    cases hb
  · obtain ⟨hfirst, hsecond⟩ := List.forall_mem_append.1 hok
    obtain ⟨_, hb, hR⟩ := h _ _ _ hw hfirst
    cases hb
    exact hf _ _ _ hR _ _ _ hrest hsecond

theorem Passes.execute :
    (execute statement).Passes tx fun log _ => ∃ count, log = [.executed statement count] := by
  intro log out after hr hok
  rcases runs_execute.1 hr with ⟨count, rfl, rfl, -⟩ | ⟨e, rfl, -⟩
  · exact ⟨(), rfl, count, rfl⟩
  · cases hok _ List.mem_cons_self

theorem Passes.query :
    (query statement).Passes tx fun log rows => log = [.found statement rows] := by
  intro log out after hr hok
  rcases runs_query.1 hr with ⟨rows, rfl, rfl, -⟩ | ⟨e, rfl, -⟩
  · exact ⟨rows, rfl, rfl⟩
  · cases hok _ List.mem_cons_self

theorem Passes.absorbing {benign : EngineError → Bool} :
    (absorbing statement benign).Passes tx fun log applied =>
      (∃ marked count released, log = [.executed (.mark (tx.savepoints + 1)) marked,
        .executed statement count, .executed (.release (tx.savepoints + 1)) released]) ∧
      applied = true := by
  intro log out after hr hok
  obtain ⟨result, hattempt, rfl, -⟩ := runs_absorbing hr
  obtain ⟨hlog, rfl⟩ := hattempt.of_isOk hok
  exact ⟨true, rfl, hlog, rfl⟩

end Passes

/-- Unless a statement fails, the work executes just these and comes to this. -/
def Does (w : Work α) (statements : List Statement) (a : α) : Prop :=
  ∀ tx log out after, w.Runs tx log out after → (∀ event ∈ log, event.reply.isOk) →
    log.map Event.call = statements.map .executeInside ∧ out = .ok a

theorem does_iff {w : Work α} : w.Does statements a ↔ ∀ tx, w.Passes tx fun log b =>
    log.map Event.call = statements.map .executeInside ∧ b = a := by
  constructor
  · intro h tx log out after hr hok
    obtain ⟨hcalls, rfl⟩ := h _ _ _ _ hr hok
    exact ⟨a, rfl, hcalls, rfl⟩
  · intro h tx log out after hr hok
    obtain ⟨_, rfl, hcalls, rfl⟩ := h _ _ _ _ hr hok
    exact ⟨hcalls, rfl⟩

theorem Does.pure (a : α) : Does (pure a) [] a := does_iff.2 fun _ => .pure ⟨rfl, rfl⟩

theorem Does.bind {w : Work β} {f : β → Work α} {b : β} (h : w.Does statements b)
    (hf : (f b).Does more a) : (w >>= f).Does (statements ++ more) a := by
  refine does_iff.2 fun tx => (does_iff.1 h tx).bind ?_
  rintro log _ middle ⟨hcalls, rfl⟩
  refine (does_iff.1 hf middle).mono fun rest a hrest => ⟨?_, hrest.2⟩
  rw [List.map_append, List.map_append, hcalls, hrest.1]

theorem Does.execute (statement : Statement) : (execute statement).Does [statement] () := by
  refine does_iff.2 fun tx => Passes.execute.mono ?_
  rintro _ _ ⟨count, rfl⟩
  exact ⟨rfl, rfl⟩

theorem Does.forM (statement : β → Statement) (items : List β) :
    (items.forM fun item => Work.execute (statement item)).Does (items.map statement) () := by
  induction items with
  | nil => exact .pure ()
  | cons item rest ih => exact (Does.execute (statement item)).bind ih

end Work

namespace Operation

variable {α β : Type} {calls more : List Call} {a : α}

def Passes (op : Operation α) (Q : List Event → α → Prop) : Prop :=
  ∀ log result, op.Runs log result → (∀ event ∈ log, event.reply.isOk) →
    ∃ a, result = .ok a ∧ Q log a

section Passes

variable {P Q : List Event → α → Prop} {R : List Event → β → Prop}

theorem Passes.pure (h : Q [] a) : Passes (pure a) Q := by
  rintro log result ⟨rfl, rfl⟩ _
  exact ⟨a, rfl, h⟩

theorem Passes.mono {op : Operation α} (h : op.Passes P) (hpq : ∀ log a, P log a → Q log a) :
    op.Passes Q := by
  intro log result hr hok
  obtain ⟨a, rfl, hp⟩ := h _ _ hr hok
  exact ⟨a, rfl, hpq _ _ hp⟩

theorem Passes.bind {op : Operation β} {f : β → Operation α} (h : op.Passes R)
    (hf : ∀ log b, R log b → (f b).Passes fun rest a => Q (log ++ rest) a) :
    (op >>= f).Passes Q := by
  intro log result hr hok
  rcases runs_bind.1 hr with ⟨e, hop, rfl⟩ | ⟨first, b, rest, rfl, hop, hrest⟩
  · obtain ⟨b, hb, -⟩ := h _ _ hop hok
    cases hb
  · obtain ⟨hfirst, hsecond⟩ := List.forall_mem_append.1 hok
    obtain ⟨_, hb, hR⟩ := h _ _ hop hfirst
    cases hb
    exact hf _ _ hR _ _ hrest hsecond

theorem Passes.forM {f : β → Operation Unit} {S : β → List Event → Prop} {items : List β}
    (h : ∀ b ∈ items, (f b).Passes fun log _ => S b log) :
    (items.forM f).Passes fun log _ =>
      ∃ parts, log = parts.flatten ∧ List.Forall₂ S items parts := by
  induction items with
  | nil => exact .pure ⟨[], rfl, .nil⟩
  | cons b rest ih =>
    obtain ⟨hfirst, hrest⟩ := List.forall_mem_cons.1 h
    refine hfirst.bind fun log _ hlog => (ih hrest).mono ?_
    rintro _ _ ⟨parts, rfl, hparts⟩
    exact ⟨log :: parts, rfl, .cons hlog hparts⟩

theorem Passes.run {op : Operation α} (h : op.Passes Q) {engine : Engine} {said : List Event}
    (he : engine.SucceedsAfter said) :
    ∃ log a, Session.run engine said op.run = (log, .ok a) ∧ Q log a := by
  obtain ⟨a, hresult, hQ⟩ := h _ _ (Session.run_runs engine said op.run)
    (Session.run_succeedsAfter he op.run)
  exact ⟨_, a, Prod.ext rfl hresult, hQ⟩

end Passes

theorem run_query {engine : Engine} {said : List Event} {statement : Statement} {rows : List Row}
    (h : engine said (.query statement) = .ok rows) :
    Session.run engine said (query statement).run =
      ([⟨.query statement, .ok rows⟩], .ok rows) := by
  have hdone : (ofReply (engine said (.query statement))).run = .done (.ok rows) := by
    rw [h]
    rfl
  rw [← h]
  exact run_request_bind engine said (.query statement) ofReply hdone

def Does (op : Operation α) (calls : List Call) (a : α) : Prop :=
  ∀ log result, op.Runs log result → (∀ event ∈ log, event.reply.isOk) →
    log.map Event.call = calls ∧ result = .ok a

theorem does_iff {op : Operation α} :
    op.Does calls a ↔ op.Passes fun log b => log.map Event.call = calls ∧ b = a := by
  constructor
  · intro h log result hr hok
    obtain ⟨hcalls, rfl⟩ := h _ _ hr hok
    exact ⟨a, rfl, hcalls, rfl⟩
  · intro h log result hr hok
    obtain ⟨_, rfl, hcalls, rfl⟩ := h _ _ hr hok
    exact ⟨hcalls, rfl⟩

theorem Does.pure (a : α) : Does (pure a) [] a := does_iff.2 (.pure ⟨rfl, rfl⟩)

theorem Does.bind {op : Operation β} {f : β → Operation α} {b : β} (h : op.Does calls b)
    (hf : (f b).Does more a) : (op >>= f).Does (calls ++ more) a := by
  refine does_iff.2 ((does_iff.1 h).bind ?_)
  rintro log _ ⟨hcalls, rfl⟩
  refine (does_iff.1 hf).mono fun rest a hrest => ⟨?_, hrest.2⟩
  rw [List.map_append, hcalls, hrest.1]

theorem Does.exchange {op : Operation α} (h : op.Does calls a) {engine : Engine}
    (he : engine.Succeeds) :
    (op.exchange engine).1.map Event.call = calls ∧ (op.exchange engine).2 = .ok a :=
  h _ _ (op.exchange_runs engine) (Session.run_succeeds he [] op.run)

end Operation

theorem Transaction.run_passes {α : Type} {work : Work α} {Q : List Event → α → Prop}
    (h : work.Passes {} Q) : (Transaction.run work).Passes fun log a =>
      ∃ body, log = .begun :: (body ++ [⟨.commit, .ok ()⟩]) ∧ Q body a := by
  intro log result hr hok
  rcases Transaction.runs_run hr with ⟨e, rfl, -⟩ | ⟨body, outcome, tx, last, rfl, hwork, hending⟩
  · cases hok _ List.mem_cons_self
  · obtain ⟨hbody, hlast⟩ := List.forall_mem_append.1 (List.forall_mem_cons.1 hok).2
    obtain ⟨a, rfl, hQ⟩ := h _ _ _ hwork hbody
    cases hending with
    | committed => exact ⟨a, rfl, body, rfl, hQ⟩
    | uncommitted e => cases hlast _ List.mem_cons_self

theorem Transaction.run_does {α : Type} {work : Work α} {statements : List Statement} {a : α}
    (h : work.Does statements a) :
    (Transaction.run work).Does (.start :: (statements.map .executeInside ++ [.commit])) a := by
  refine Operation.does_iff.2 ((Transaction.run_passes (Work.does_iff.1 h {})).mono ?_)
  rintro _ _ ⟨body, rfl, hcalls, rfl⟩
  refine ⟨?_, rfl⟩
  rw [List.map_cons, List.map_append, hcalls]
  rfl

end DocSql
