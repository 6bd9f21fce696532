import DocSql.Error
import Mathlib.Data.List.Forall2

/-!
Two outcomes of work that was given different things. They are alike where both
have results, which stand in a relation, or both are failures, which stand in
another. Steps that keep outcomes alike do so one after the other, so two runs of
a function are compared by one walk over it.
-/
namespace DocSql

/-- Failures that differ in their details alone. -/
def Error.SameKind (e e' : Error) : Prop := e.ctorIdx = e'.ctorIdx

instance : Std.Refl Error.SameKind := ⟨fun _ => rfl⟩

inductive Alike {α β : Type} (E : Error → Error → Prop) (R : α → β → Prop) :
    Except Error α → Except Error β → Prop
  | ok {a : α} {b : β} (h : R a b) : Alike E R (.ok a) (.ok b)
  | error {e e' : Error} (h : E e e') : Alike E R (.error e) (.error e')

namespace Alike

variable {α β γ δ : Type} {E : Error → Error → Prop} {R : α → β → Prop} {S : γ → δ → Prop}

theorem refl [Std.Refl E] {R : α → α → Prop} (h : ∀ a, R a a) (work : Except Error α) :
    Alike E R work work := by
  cases work with
  | ok a => exact .ok (h a)
  | error e => exact .error (Std.Refl.refl e)

theorem mono {Q : α → β → Prop} {work : Except Error α} {other : Except Error β}
    (h : Alike E R work other) (hrq : ∀ a b, R a b → Q a b) : Alike E Q work other := by
  cases h with
  | ok h => exact .ok (hrq _ _ h)
  | error h => exact .error h

theorem bind {work : Except Error α} {other : Except Error β} {f : α → Except Error γ}
    {g : β → Except Error δ} (h : Alike E R work other)
    (hn : ∀ a b, R a b → Alike E S (f a) (g b)) : Alike E S (work >>= f) (other >>= g) := by
  cases h with
  | ok h => exact hn _ _ h
  | error h => exact .error h

theorem map {work : Except Error α} {other : Except Error β} {f : α → γ} {g : β → δ}
    (h : Alike E (fun a b => S (f a) (g b)) work other) : Alike E S (f <$> work) (g <$> other) := by
  cases h with
  | ok h => exact .ok h
  | error h => exact .error h

theorem exists_of_ok {a : α} {other : Except Error β} (h : Alike E R (.ok a) other) :
    ∃ b, other = .ok b ∧ R a b := by
  cases h with
  | ok h => exact ⟨_, rfl, h⟩

theorem meet {Q : γ → β → Prop} {work : Except Error α} {other : Except Error γ}
    {middle : Except Error β} (h : Alike Error.SameKind R work middle)
    (h' : Alike Error.SameKind Q other middle) :
    Alike Error.SameKind (fun a c => ∃ b, R a b ∧ Q c b) work other := by
  cases h with
  | ok h =>
    cases h' with
    | ok h' => exact .ok ⟨_, h, h'⟩
  | error h =>
    cases h' with
    | error h' => exact .error (h.trans h'.symm)

theorem mapM {f : α → Except Error γ} {g : β → Except Error δ} {items : List α} {others : List β}
    (h : List.Forall₂ (fun a b => Alike E S (f a) (g b)) items others) :
    Alike E (List.Forall₂ S) (items.mapM f) (others.mapM g) := by
  induction h with
  | nil => exact .ok .nil
  | cons hfirst _ ih =>
    rw [List.mapM_cons, List.mapM_cons]
    exact hfirst.bind fun _ _ hmade => ih.bind fun _ _ hothers => .ok (.cons hmade hothers)

end Alike

theorem mapM_congr {α β : Type} {f g : α → Except Error β} {items : List α}
    (h : ∀ a ∈ items, f a = g a) : items.mapM f = items.mapM g := by
  induction items with
  | nil => rfl
  | cons a rest ih =>
    rw [List.mapM_cons, List.mapM_cons, h a List.mem_cons_self,
      ih fun b hb => h b (List.mem_cons_of_mem a hb)]

end DocSql
