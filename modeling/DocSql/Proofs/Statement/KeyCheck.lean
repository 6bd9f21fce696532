import DocSql.Proofs.Statement.Row

/-!
Keys that look like operators or paths, below the top of an inserted document.
The check goes down from object to object and stops at every list, so such a key
is refused just where objects alone lead to it, and is stored inside a list.
Main statement: `Insert.statement_refuses_iff`.
-/
namespace DocSql

namespace Json

/-- The way down from a value to one inside it. It leads through the members of
objects without a tag, and through the items of lists where these are passed. -/
inductive Reaches (lists : Bool) : Json → Json → Prop
  | self (value : Json) : Reaches lists value value
  | member {members : List (String × Json)} {name : String} {value inner : Json}
    (ht : (obj members).typeTag? = none) (hm : (name, value) ∈ members)
    (h : Reaches lists value inner) : Reaches lists (obj members) inner
  | item {items : List Json} {value inner : Json} (hl : lists = true) (hi : value ∈ items)
    (h : Reaches lists value inner) : Reaches lists (arr items) inner

namespace Reaches

variable {lists : Bool} {value inner : Json}

theorem through_lists (h : Reaches false value inner) : Reaches true value inner := by
  induction h with
  | self value => exact .self value
  | member ht hm _ ih => exact .member ht hm ih
  | item hl => cases hl

theorem trans {middle : Json} (h : Reaches lists value middle) (hm : Reaches lists middle inner) :
    Reaches lists value inner := by
  induction h with
  | self => exact hm
  | member ht hmember _ ih => exact .member ht hmember (ih hm)
  | item hl hi _ ih => exact .item hl hi (ih hm)

theorem first_list (h : Reaches true value inner) : Reaches false value inner ∨
    ∃ items, Reaches false value (arr items) ∧ ∃ item ∈ items, Reaches true item inner := by
  induction h with
  | self value => exact .inl (.self value)
  | member ht hm _ ih =>
    rcases ih with h | ⟨items, hlist, hitem⟩
    · exact .inl (.member ht hm h)
    · exact .inr ⟨items, .member ht hm hlist, hitem⟩
  | @item items item _ _ hi h _ => exact .inr ⟨items, .self _, item, hi, h⟩

end Reaches

def HasKey (lists : Bool) (value : Json) (key : String) : Prop :=
  ∃ members, Reaches lists value (obj members) ∧ (obj members).typeTag? = none ∧
    key ∈ Entries.keys members

theorem hasKey_obj {lists : Bool} {members : List (String × Json)} {key : String}
    (ht : (obj members).typeTag? = none) : HasKey lists (obj members) key ↔
      key ∈ Entries.keys members ∨ ∃ entry ∈ members, HasKey lists entry.2 key := by
  constructor
  · rintro ⟨found, hreaches, hfound, hkey⟩
    cases hreaches with
    | self => exact .inl hkey
    | @member _ name value _ _ hm h => exact .inr ⟨(name, value), hm, found, h, hfound, hkey⟩
  · rintro (hkey | ⟨entry, hm, found, h, hfound, hkey⟩)
    · exact ⟨members, .self _, ht, hkey⟩
    · exact ⟨found, .member ht hm h, hfound, hkey⟩

theorem not_hasKey_tagged {lists : Bool} {members : List (String × Json)} {key tag : String}
    (ht : (obj members).typeTag? = some tag) : ¬HasKey lists (obj members) key := by
  rintro ⟨found, hreaches, hfound, -⟩
  cases hreaches with
  | self => cases ht.symm.trans hfound
  | member hmember _ _ => cases ht.symm.trans hmember

theorem hasKey_true_iff {value : Json} {key : String} : HasKey true value key ↔
    HasKey false value key ∨
      ∃ items, Reaches false value (arr items) ∧ ∃ item ∈ items, HasKey true item key := by
  constructor
  · rintro ⟨members, hreaches, ht, hkey⟩
    rcases hreaches.first_list with h | ⟨items, hlist, item, hi, h⟩
    · exact .inl ⟨members, h, ht, hkey⟩
    · exact .inr ⟨items, hlist, item, hi, members, h, ht, hkey⟩
  · rintro (⟨members, h, ht, hkey⟩ | ⟨items, hlist, item, hi, members, h, ht, hkey⟩)
    · exact ⟨members, h.through_lists, ht, hkey⟩
    · exact ⟨members, hlist.through_lists.trans (.item rfl hi h), ht, hkey⟩

end Json

namespace Insert

open Json (Reaches HasKey)
open Sql (Expr)

/-- An object below the top of a document has the key, and may not have it. -/
def Offends (lists : Bool) (document : Entries Json) (key : String) : Prop :=
  (∃ entry ∈ document, entry.2.HasKey lists key) ∧ isForbidden key

def Lists (document : Entries Json) (items : List Json) : Prop :=
  ∃ entry ∈ document, Reaches false entry.2 (.arr items)

def nestedKey (key : String) : Error :=
  .invalidQuery ("Nested keys should not contain the '$' or '.' characters: " ++ key)

def Finds (offends : String → Prop) : Except Error Unit → Prop
  | .ok _ => ∀ key, ¬offends key
  | .error e => ∃ key, offends key ∧ e = nestedKey key

theorem Finds.of_iff {offends others : String → Prop} {check : Except Error Unit}
    (h : Finds offends check) (hiff : ∀ key, offends key ↔ others key) : Finds others check := by
  rwa [← funext fun key => propext (hiff key)]

theorem Finds.andThen {offends others : String → Prop} {check next : Except Error Unit}
    (h : Finds offends check) (hn : Finds others next) :
    Finds (fun key => offends key ∨ others key) (check >>= fun _ => next) := by
  cases check with
  | error e =>
    obtain ⟨key, hkey, he⟩ := h
    exact ⟨key, .inl hkey, he⟩
  | ok _ =>
    cases next with
    | error e =>
      obtain ⟨key, hkey, he⟩ := hn
      exact ⟨key, .inr hkey, he⟩
    | ok _ => exact fun key hkey => hkey.elim (h key) (hn key)

mutual

theorem checkValue_finds : ∀ value : Json,
    Finds (fun key => value.HasKey false key ∧ isForbidden key) (checkValue value)
  | .obj members => by
    simp only [checkValue]
    cases ht : (Json.obj members).typeTag? with
    | some tag => exact fun key h => Json.not_hasKey_tagged ht h.1
    | none =>
      refine (checkMembers_finds true members).of_iff fun key => ?_
      rw [Json.hasKey_obj ht]
      simp only [true_and]
  | .arr items => by
    simp only [checkValue]
    rintro key ⟨⟨members, h, -⟩, -⟩
    cases h with
    | item hl => cases hl
  | .null | .bool _ | .num _ | .str _ => by
    simp only [checkValue]
    rintro key ⟨⟨members, h, -⟩, -⟩
    cases h

theorem checkMembers_finds (nested : Bool) : ∀ members : List (String × Json),
    Finds (fun key => (nested = true ∧ key ∈ Entries.keys members ∨
      ∃ entry ∈ members, entry.2.HasKey false key) ∧ isForbidden key) (checkMembers nested members)
  | [] => by
    simp only [checkMembers]
    rintro key ⟨⟨-, h⟩ | ⟨entry, h, -⟩, -⟩
    · cases h
    · cases h
  | (name, value) :: rest => by
    simp only [checkMembers]
    have hrest := (checkValue_finds value).andThen (checkMembers_finds nested rest)
    split
    next h =>
      obtain ⟨hnested, hname⟩ := Bool.and_eq_true_iff.1 h
      exact ⟨name, ⟨.inl ⟨hnested, List.mem_cons_self⟩, hname⟩, rfl⟩
    next h =>
      refine hrest.of_iff fun key => ?_
      have hother : nested = true → isForbidden key → key ≠ name := by
        rintro hnested hkey rfl
        exact h (by rw [hnested, hkey]; rfl)
      have hkeys : key ∈ Entries.keys ((name, value) :: rest) ↔
          key = name ∨ key ∈ Entries.keys rest := List.mem_cons
      rw [List.exists_mem_cons_iff, hkeys]
      constructor
      · rintro (⟨hinner, hkey⟩ | ⟨⟨hnested, hlater⟩ | hinner, hkey⟩)
        · exact ⟨.inr (.inl hinner), hkey⟩
        · exact ⟨.inl ⟨hnested, .inr hlater⟩, hkey⟩
        · exact ⟨.inr (.inr hinner), hkey⟩
      · rintro ⟨⟨hnested, heq | hlater⟩ | hinner | hinner, hkey⟩
        · exact absurd heq (hother hnested hkey)
        · exact .inr ⟨.inl ⟨hnested, hlater⟩, hkey⟩
        · exact .inl ⟨hinner, hkey⟩
        · exact .inr ⟨.inr hinner, hkey⟩

end

variable (schema : Schema) (document : Entries Json)

theorem checkMembers_offends : Finds (Offends false document) (checkMembers false document) := by
  refine (checkMembers_finds false document).of_iff fun key => ?_
  simp only [Offends, Bool.false_eq_true, false_and, false_or]

def unchecked : Except Error Statement := do
  let all := columns schema document
  if all.isEmpty then throw (.invalidQuery "object has no columns to insert")
  let exprs ← values schema all
  return ⟨text schema (all.map Prod.fst) (rowTexts 1 exprs), exprs.flatMap Expr.params⟩

theorem statement_eq_unchecked : statement schema document = (do
    checkMembers false document
    unchecked schema document) := statement_eq schema document

/-- Inserting refuses a document that has such a key in an object below the top
with objects alone above it, and names one of them. Any other document is
inserted as if no key were looked at, so one that is inserted has no such key at
all just where its lists have none. -/
theorem statement_refuses_iff :
    ((∃ key, Offends false document key) → ∃ key, Offends false document key ∧
      statement schema document = .error (nestedKey key)) ∧
    ((∀ key, ¬Offends false document key) →
      statement schema document = unchecked schema document) ∧
    ∀ s, statement schema document = .ok s → ((∀ key, ¬Offends true document key) ↔
      ∀ items, Lists document items → ∀ item ∈ items, ∀ key, item.HasKey true key →
        isForbidden key = false) := by
  have hfinds := checkMembers_offends document
  rw [statement_eq_unchecked]
  cases hcheck : checkMembers false document with
  | error e =>
    rw [hcheck] at hfinds
    obtain ⟨key, hkey, rfl⟩ := hfinds
    exact ⟨fun _ => ⟨key, hkey, rfl⟩, fun hnone => absurd hkey (hnone key), nofun⟩
  | ok _ =>
    rw [hcheck] at hfinds
    refine ⟨fun ⟨key, hkey⟩ => absurd hkey (hfinds key), fun _ => rfl, fun s _ => ⟨?_, ?_⟩⟩
    · rintro hnone items ⟨entry, hentry, hlist⟩ item hi key hkey
      rw [← Bool.not_eq_true]
      intro hforbidden
      refine hnone key ⟨⟨entry, hentry, ?_⟩, hforbidden⟩
      exact Json.hasKey_true_iff.2 (.inr ⟨items, hlist, item, hi, hkey⟩)
    · rintro hlists key ⟨⟨entry, hentry, hkey⟩, hforbidden⟩
      rcases Json.hasKey_true_iff.1 hkey with h | ⟨items, hlist, item, hi, hitem⟩
      · exact hfinds key ⟨⟨entry, hentry, h⟩, hforbidden⟩
      · have hplain := hlists items ⟨entry, hentry, hlist⟩ item hi key hitem
        rw [hforbidden] at hplain
        cases hplain

/-- A key that no path can lead to is stored inside a list. -/
theorem listed_key_stored :
    let document : Entries Json := [("tags", .arr [.obj [("a.b", .int 1)]])]
    statement { className := "Post", fields := [("tags", .array)] } document =
      .ok ⟨"INSERT INTO \"Post\" (\"tags\") VALUES ($1::jsonb)",
        [.json (.arr [.obj [("a.b", .int 1)]])]⟩ ∧
    Offends true document "a.b" := by
  intro document
  refine ⟨by rfl, ⟨_, List.mem_singleton_self _, ?_⟩, by decide⟩
  exact ⟨_, .item rfl (List.mem_singleton_self _) (.self _), rfl, List.mem_singleton_self _⟩

end Insert
end DocSql
