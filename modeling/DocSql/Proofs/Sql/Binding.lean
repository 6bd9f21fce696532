import DocSql.Proofs.Outcome
import DocSql.Proofs.Sql.Alignment

/-!
Binding aligned fragments never fails. The text shows the positions that the
parameters take behind those bound before, and an ordering by distance points
back at the parameters of the distance it was made from.
-/
namespace DocSql.Sql

theorem number_toList (next : Nat) (template : String) :
    (number next template).toList = numbered none next template.toList := by
  rw [number, String.toList_ofList]

theorem Aligned.number_shows {template : String} {n : Nat} (h : Aligned template.toList n)
    (next : Nat) : Shows (number next template).toList (List.range' next n) := by
  rw [number_toList]
  exact h.shows next

def Fragment.IsAligned (f : Fragment) : Prop := Aligned f.template.toList f.params.length

namespace Builder

def push (b : Builder) (params : List Datum) : Builder := { b with params := b.params ++ params }

@[simp] theorem push_params (b : Builder) (params : List Datum) :
    (b.push params).params = b.params ++ params := rfl

@[simp] theorem push_nil (b : Builder) : b.push [] = b := by simp [push]

@[simp] theorem push_push (b : Builder) (ps qs : List Datum) :
    (b.push ps).push qs = b.push (ps ++ qs) := by simp [push]

@[simp] theorem next_push (b : Builder) (params : List Datum) :
    (b.push params).next = b.next + params.length := by simp [push, next, Nat.add_assoc]

@[simp] theorem next_startingAt (first : Nat) : (startingAt first).next = max first 1 := rfl

theorem bind_aligned (b : Builder) {f : Fragment} (h : f.IsAligned) :
    b.bind f = .ok (⟨number b.next f.template, List.range' b.next f.params.length⟩,
      b.push f.params) := by
  simp only [bind, Aligned.markers h, if_true, push]

end Builder

namespace Assembly

theorem run_bind {f : Fragment} (h : f.IsAligned) (b : Builder) :
    (Assembly.bind f).run b = .ok (number b.next f.template, b.push f.params) := by
  simp only [Assembly.bind, StateT.run_bind, StateT.run_get, pure_bind]
  rw [Builder.bind_aligned b h]
  rfl

theorem run_andThen {α β : Type} {work : Assembly α} {b next : Builder} {a : α}
    (h : work.run b = .ok (a, next)) (more : α → Assembly β) :
    (work >>= more).run b = (more a).run next := by
  rw [StateT.run_bind, h]
  rfl

theorem runFrom_eq {α : Type} {work : Assembly α} {first : Nat} {a : α} {params : List Datum}
    (h : work.run (.startingAt first) = .ok (a, (Builder.startingAt first).push params)) :
    runFrom first work = .ok (a, params) := by
  unfold runFrom
  rw [h]
  rfl

theorem statement_eq {work : Assembly String} {sql : String} {params : List Datum}
    (h : work.run (.startingAt 1) = .ok (sql, (Builder.startingAt 1).push params)) :
    statement work = .ok ⟨sql, params⟩ := by
  unfold statement
  rw [runFrom_eq h]
  rfl

/-- The work does not fail internally, and what it makes has the property
together with the parameters it binds behind those of the builder. -/
structure Binds {α : Type} (work : Assembly α) (b : Builder) (P : α → List Datum → Prop) :
    Prop where
  yields : Yields (work.run b) fun made => ∃ params, made.2 = b.push params ∧ P made.1 params

namespace Binds

variable {α β : Type} {b : Builder} {P Q : α → List Datum → Prop} {R : β → List Datum → Prop}

theorem pure {a : α} (h : P a []) : Binds (Pure.pure a) b P :=
  ⟨.pure ⟨[], by simp, h⟩⟩

theorem lift {work : Except Error α} (h : Yields work fun a => P a []) :
    Binds (liftM work) b P := by
  cases h with
  | ok h => exact ⟨.ok ⟨[], by simp, h⟩⟩
  | error h => exact ⟨.error h⟩

theorem throw {e : Error} (h : e.isInternal = false) :
    Binds (MonadExcept.throw e : Assembly α) b P := ⟨.error h⟩

theorem throw_bind {e : Error} {next : α → Assembly β} (h : e.isInternal = false) :
    Binds (MonadExcept.throw e >>= next) b R := ⟨.error h⟩

theorem mono {work : Assembly α} (h : Binds work b P) (hpq : ∀ a params, P a params → Q a params) :
    Binds work b Q := by
  refine ⟨h.yields.mono fun made hmade => ?_⟩
  obtain ⟨params, hb, hp⟩ := hmade
  exact ⟨params, hb, hpq _ _ hp⟩

theorem bind {work : Assembly α} {next : α → Assembly β} (h : Binds work b P)
    (hn : ∀ a params, P a params →
      Binds (next a) (b.push params) fun made more => R made (params ++ more)) :
    Binds (work >>= next) b R := by
  constructor
  rw [StateT.run_bind]
  refine h.yields.bind fun made hmade => ?_
  obtain ⟨a, b'⟩ := made
  obtain ⟨params, rfl, hp⟩ := hmade
  refine (hn a params hp).yields.mono fun result hresult => ?_
  obtain ⟨more, hb, hr⟩ := hresult
  exact ⟨params ++ more, by rw [hb, Builder.push_push], hr⟩

theorem lift_bind {S : α → Prop} {work : Except Error α} {next : α → Assembly β}
    (h : Yields work S) (hn : ∀ a, S a → Binds (next a) b R) :
    Binds (liftM work >>= next) b R := by
  refine Binds.bind (P := fun a params => S a ∧ params = []) (.lift ?_) fun a params ha => ?_
  · exact h.mono fun a ha => ⟨ha, rfl⟩
  · obtain ⟨ha, rfl⟩ := ha
    simpa using hn a ha

theorem fragment {f : Fragment} (h : f.IsAligned) :
    Binds (Assembly.bind f) b fun sql params =>
      sql = number b.next f.template ∧ params = f.params := by
  constructor
  rw [run_bind h]
  exact .ok ⟨f.params, rfl, rfl, rfl⟩

theorem next : Binds Assembly.next b fun n params => n = b.next ∧ params = [] :=
  ⟨.ok ⟨[], by simp, rfl, rfl⟩⟩

theorem foldlM {f : β → α → Assembly β} {I : List α → β → Builder → Prop} {items : List α}
    (h : ∀ done a made b, I done made b →
      (f made a).Binds b fun made params => I (done ++ [a]) made (b.push params))
    {done : List α} {start : β} (hs : I done start b) :
    (items.foldlM f start).Binds b fun made params => I (done ++ items) made (b.push params) := by
  induction items generalizing done start b with
  | nil =>
    refine .pure ?_
    rwa [List.append_nil, Builder.push_nil]
  | cons a rest ih =>
    rw [List.foldlM_cons]
    refine (h done a start b hs).bind fun made params hmade => ?_
    refine (ih hmade).mono fun made more hmore => ?_
    simpa using hmore

theorem runFrom {first : Nat} {work : Assembly α} (h : Binds work (.startingAt first) P) :
    Yields (Assembly.runFrom first work) fun made => P made.1 made.2 := by
  unfold Assembly.runFrom
  refine h.yields.bind fun made hmade => ?_
  obtain ⟨params, hb, hp⟩ := hmade
  refine .pure ?_
  rw [hb]
  exact hp

theorem statement {work : Assembly String} {S : Statement → Prop}
    (h : Binds work (.startingAt 1) fun sql params => S ⟨sql, params⟩) :
    Yields (Assembly.statement work) S := by
  unfold Assembly.statement
  exact Yields.bind h.runFrom fun made hmade => .pure hmade

end Binds
end Assembly

namespace Predicate

mutual

def distances : Predicate → List Expr
  | nearest distance _ => [distance]
  | not p | paren p => distances p
  | and ps | or ps => distancesAll ps
  | _ => []

def distancesAll : List Predicate → List Expr
  | [] => []
  | p :: rest => distances p ++ distancesAll rest

end

theorem paramsAll_append (ps qs : List Predicate) :
    paramsAll (ps ++ qs) = paramsAll ps ++ paramsAll qs := by
  induction ps with
  | nil => rfl
  | cons p rest ih => simp only [List.cons_append, paramsAll, ih, List.append_assoc]

theorem distancesAll_append (ps qs : List Predicate) :
    distancesAll (ps ++ qs) = distancesAll ps ++ distancesAll qs := by
  induction ps with
  | nil => rfl
  | cons p rest ih => simp only [List.cons_append, distancesAll, ih, List.append_assoc]

end Predicate

def OrdersBy (next : Nat) (params : List Datum) (distance : Expr) (sort : String) : Prop :=
  ∃ before after, params = before ++ distance.params ++ after ∧
    sort = number (next + before.length) distance.template ++ " ASC"

namespace OrdersBy

variable {next : Nat} {params : List Datum} {distance : Expr} {sort : String}

theorem append_right (h : OrdersBy next params distance sort) (more : List Datum) :
    OrdersBy next (params ++ more) distance sort := by
  obtain ⟨before, after, rfl, hsort⟩ := h
  exact ⟨before, after ++ more, by simp, hsort⟩

theorem append_left {earlier : List Datum}
    (h : OrdersBy (next + earlier.length) params distance sort) :
    OrdersBy next (earlier ++ params) distance sort := by
  obtain ⟨before, after, rfl, hsort⟩ := h
  refine ⟨earlier ++ before, after, by simp, ?_⟩
  rw [hsort, List.length_append, Nat.add_assoc]

end OrdersBy

namespace Predicate

mutual

theorem orderings_forall₂ (next : Nat) : ∀ p : Predicate,
    List.Forall₂ (OrdersBy next p.params) p.distances (p.orderings next)
  | nearest distance limit => by
    simp only [distances, orderings, params]
    exact .cons ⟨[], limit.toList, rfl, rfl⟩ .nil
  | not p | paren p => by
    simp only [distances, orderings, params]
    exact orderings_forall₂ next p
  | and ps | or ps => by
    simp only [distances, orderings, params]
    exact orderingsAll_forall₂ next ps
  | always | isNull _ | isNotNull _ | holds _ | compare _ _ _ | isIn _ _ | notIn _ _ => .nil

theorem orderingsAll_forall₂ (next : Nat) : ∀ ps : List Predicate,
    List.Forall₂ (OrdersBy next (paramsAll ps)) (distancesAll ps) (orderingsAll next ps)
  | [] => .nil
  | p :: rest => by
    simp only [distancesAll, orderingsAll, paramsAll]
    have hp := (orderings_forall₂ next p).imp fun _ _ h => h.append_right (paramsAll rest)
    have hrest := (orderingsAll_forall₂ (next + p.params.length) rest).imp
      fun _ _ h => h.append_left
    exact List.rel_append hp hrest

end

end Predicate

namespace Filter

def patternOf (next : Nat) (conjuncts : List Predicate) : String :=
  if conjuncts.isEmpty then "" else number next (Predicate.and conjuncts).template

theorem patternOf_shows {conjuncts : List Predicate} (h : ∀ p ∈ conjuncts, p.IsPlain)
    (next : Nat) : Shows (patternOf next conjuncts).toList
      (List.range' next (Predicate.paramsAll conjuncts).length) := by
  unfold patternOf
  cases conjuncts with
  | nil => exact .plain rfl
  | cons p rest =>
    have hplain : (Predicate.and (p :: rest)).IsPlain := by
      simpa only [Predicate.IsPlain] using Predicate.allPlain_iff.2 h
    have hshows := (Predicate.aligned hplain).number_shows next
    simpa only [List.isEmpty_cons, Bool.false_eq_true, if_false, Predicate.params] using hshows

theorem run_assemble {conjuncts : List Predicate} (h : ∀ p ∈ conjuncts, p.IsPlain) (b : Builder) :
    (assemble conjuncts).run b =
      .ok (⟨patternOf b.next conjuncts, Predicate.orderingsAll b.next conjuncts⟩,
        b.push (Predicate.paramsAll conjuncts)) := by
  cases conjuncts with
  | nil =>
    rw [Predicate.paramsAll, Builder.push_nil]
    rfl
  | cons p rest =>
    have hplain : (Predicate.and (p :: rest)).IsPlain := by
      simpa only [Predicate.IsPlain] using Predicate.allPlain_iff.2 h
    have haligned : (Predicate.and (p :: rest)).fragment.IsAligned := Predicate.aligned hplain
    unfold assemble
    simp only [List.isEmpty_cons, Bool.false_eq_true, if_false, StateT.run_bind, Assembly.next,
      StateT.run_get, StateT.run_pure, pure_bind]
    rw [Assembly.run_bind haligned]
    rfl

theorem assemble_binds {conjuncts : List Predicate} (h : ∀ p ∈ conjuncts, p.IsPlain)
    (b : Builder) : (assemble conjuncts).Binds b fun filter params =>
      filter = ⟨patternOf b.next conjuncts, Predicate.orderingsAll b.next conjuncts⟩ ∧
        params = Predicate.paramsAll conjuncts := by
  constructor
  rw [run_assemble h]
  exact .ok ⟨Predicate.paramsAll conjuncts, rfl, rfl, rfl⟩

end Filter
end DocSql.Sql
