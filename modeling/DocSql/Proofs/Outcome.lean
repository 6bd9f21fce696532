import DocSql.Error
import Mathlib.Data.List.Forall2

/-!
Outcomes of work that may fail. An internal failure blames the program, all
others blame what it was given. `Yields` says of work both that its result has
a property and that it never fails internally, so that one walk over a
function answers for its results and for its failures.
-/
namespace DocSql

def Error.isInternal : Error → Bool
  | internal _ => true
  | _ => false

theorem bind_eq_ok {α β : Type} {work : Except Error α} {next : α → Except Error β} {b : β} :
    work >>= next = .ok b ↔ ∃ a, work = .ok a ∧ next a = .ok b := by
  cases work with
  | error e => exact ⟨nofun, nofun⟩
  | ok a =>
    refine ⟨fun h => ⟨a, rfl, h⟩, fun h => ?_⟩
    obtain ⟨_, ha, h⟩ := h
    cases ha
    exact h

theorem bind_eq_error {α β : Type} {work : Except Error α} {next : α → Except Error β} {e : Error} :
    work >>= next = .error e ↔ work = .error e ∨ ∃ a, work = .ok a ∧ next a = .error e := by
  cases work with
  | error _ =>
    refine ⟨fun h => .inl (by cases h; rfl), ?_⟩
    rintro (h | ⟨_, h, _⟩)
    · cases h
      rfl
    · cases h
  | ok a =>
    refine ⟨fun h => .inr ⟨a, rfl, h⟩, ?_⟩
    rintro (h | ⟨_, h, hn⟩)
    · cases h
    · cases h
      exact hn

theorem map_eq_ok {α β : Type} {f : α → β} {work : Except Error α} {b : β} :
    f <$> work = .ok b ↔ ∃ a, work = .ok a ∧ f a = b := by
  cases work with
  | error e => exact ⟨nofun, nofun⟩
  | ok a =>
    refine ⟨fun h => ⟨a, rfl, by cases h; rfl⟩, fun h => ?_⟩
    obtain ⟨_, ha, h⟩ := h
    cases ha
    exact congrArg Except.ok h

theorem exists_of_map_eq_ok {α β : Type} {f : α → β} {work : Except Error α} {b : β}
    (h : f <$> work = .ok b) : ∃ a, f a = b := by
  obtain ⟨a, -, ha⟩ := map_eq_ok.1 h
  exact ⟨a, ha⟩

theorem exists_of_isOk {α : Type} {work : Except Error α} (h : work.isOk) : ∃ a, work = .ok a := by
  cases work with
  | error e => cases h
  | ok a => exact ⟨a, rfl⟩

theorem map_eq_error {α β : Type} {f : α → β} {work : Except Error α} {e : Error} :
    f <$> work = .error e ↔ work = .error e := by
  cases work with
  | error _ => exact ⟨fun h => by cases h; rfl, fun h => by cases h; rfl⟩
  | ok a => exact ⟨nofun, nofun⟩

theorem mapM_eq_ok {α β : Type} {f : α → Except Error β} {items : List α} {results : List β} :
    items.mapM f = .ok results ↔ List.Forall₂ (fun a b => f a = .ok b) items results := by
  induction items generalizing results with
  | nil =>
    rw [List.forall₂_nil_left_iff]
    exact ⟨fun h => (Except.ok.inj h).symm, fun h => congrArg Except.ok h.symm⟩
  | cons a rest ih =>
    rw [List.mapM_cons, bind_eq_ok, List.forall₂_cons_left_iff]
    constructor
    · rintro ⟨b, hb, hrest⟩
      obtain ⟨others, hothers, hall⟩ := bind_eq_ok.1 hrest
      cases hall
      exact ⟨b, others, hb, ih.1 hothers, rfl⟩
    · rintro ⟨b, others, hb, hothers, rfl⟩
      refine ⟨b, hb, ?_⟩
      rw [ih.2 hothers]
      rfl

theorem mapM_eq_error {α β : Type} {f : α → Except Error β} {items : List α} {e : Error} :
    items.mapM f = .error e ↔ ∃ before a after, items = before ++ a :: after ∧
      (∀ other ∈ before, ∃ b, f other = .ok b) ∧ f a = .error e := by
  induction items with
  | nil => exact ⟨nofun, by rintro ⟨before, a, after, h, -⟩; simp at h⟩
  | cons a rest ih =>
    rw [List.mapM_cons, bind_eq_error]
    constructor
    · rintro (hfirst | ⟨b, hb, hrest⟩)
      · exact ⟨[], a, rest, rfl, nofun, hfirst⟩
      · rcases bind_eq_error.1 hrest with hlater | ⟨_, _, hpure⟩
        · obtain ⟨before, other, after, rfl, hbefore, hother⟩ := ih.1 hlater
          exact ⟨a :: before, other, after, rfl,
            List.forall_mem_cons.2 ⟨⟨b, hb⟩, hbefore⟩, hother⟩
        · cases hpure
    · rintro ⟨before, other, after, hitems, hbefore, hother⟩
      cases before with
      | nil =>
        cases hitems
        exact .inl hother
      | cons first before =>
        cases hitems
        obtain ⟨⟨b, hb⟩, hbefore⟩ := List.forall_mem_cons.1 hbefore
        exact .inr ⟨b, hb, bind_eq_error.2 (.inl (ih.2 ⟨before, other, after, rfl, hbefore, hother⟩))⟩

/-- The result has the property, or the failure is not an internal one. -/
inductive Yields {α : Type} : Except Error α → (α → Prop) → Prop
  | ok {a : α} {P : α → Prop} (h : P a) : Yields (.ok a) P
  | error {e : Error} {P : α → Prop} (h : e.isInternal = false) : Yields (.error e) P

abbrev NeverInternal {α : Type} (work : Except Error α) : Prop := Yields work fun _ => True

namespace Yields

variable {α β : Type} {P Q : α → Prop} {R : β → Prop}

theorem pure {a : α} (h : P a) : Yields (Pure.pure a) P := .ok h

theorem throw {e : Error} (h : e.isInternal = false) :
    Yields (MonadExcept.throw e : Except Error α) P := .error h

theorem throw_bind {e : Error} {next : α → Except Error β} (h : e.isInternal = false) :
    Yields (MonadExcept.throw e >>= next) R := .error h

theorem mono {work : Except Error α} (h : Yields work P) (hpq : ∀ a, P a → Q a) :
    Yields work Q := by
  cases h with
  | ok h => exact .ok (hpq _ h)
  | error h => exact .error h

theorem bind {work : Except Error α} {next : α → Except Error β} (h : Yields work P)
    (hn : ∀ a, P a → Yields (next a) R) : Yields (work >>= next) R := by
  cases h with
  | ok h => exact hn _ h
  | error h => exact .error h

theorem map {work : Except Error α} {f : α → β} (h : Yields work fun a => R (f a)) :
    Yields (f <$> work) R := by
  cases h with
  | ok h => exact .ok h
  | error h => exact .error h

theorem made {work : Except Error α} (h : Yields work P) :
    Yields work fun a => work = .ok a ∧ P a := by
  cases h with
  | ok h => exact .ok ⟨rfl, h⟩
  | error h => exact .error h

theorem neverInternal {work : Except Error α} (h : Yields work P) : NeverInternal work :=
  h.mono fun _ _ => trivial

theorem result {work : Except Error α} (h : Yields work P) {a : α} (ha : work = .ok a) : P a := by
  subst ha
  cases h with
  | ok h => exact h

theorem mapM_forall₂ {f : α → Except Error β} {S : α → β → Prop} {items : List α}
    (h : ∀ a ∈ items, Yields (f a) (S a)) :
    Yields (items.mapM f) fun results => List.Forall₂ S items results := by
  induction items with
  | nil => exact .pure .nil
  | cons a rest ih =>
    have hrest := ih fun b hb => h b (List.mem_cons_of_mem a hb)
    rw [List.mapM_cons]
    exact (h a List.mem_cons_self).bind fun first hfirst =>
      hrest.bind fun others hothers => .pure (.cons hfirst hothers)

theorem mapM {f : α → Except Error β} {items : List α} (h : ∀ a ∈ items, Yields (f a) R) :
    Yields (items.mapM f) fun results => ∀ b ∈ results, R b := by
  refine (mapM_forall₂ (S := fun _ => R) h).mono fun results hall => ?_
  intro b hb
  obtain ⟨i, hi, rfl⟩ := List.getElem_of_mem hb
  exact hall.get (hall.length_eq ▸ hi) hi

theorem foldlM {f : β → α → Except Error β} {items : List α} {start : β} (hs : R start)
    (h : ∀ b a, R b → Yields (f b a) R) : Yields (items.foldlM f start) R := by
  induction items generalizing start with
  | nil => exact .pure hs
  | cons a rest ih =>
    rw [List.foldlM_cons]
    exact (h start a hs).bind fun next hnext => ih hnext

end Yields
end DocSql
