import DocSql.Storage.Datum

/-!
Placeholders and parameters of a statement. A fragment is a template with one
`?` for each of its parameters, and a `?` inside quotes stands for itself.
Binding numbers the markers on from the parameters bound before, so parameters
line up with placeholders however many fragments a statement is made of.
-/
namespace DocSql

/-- A statement ready to run; placeholder `$n` refers to its n-th parameter. -/
structure Statement where
  sql : String
  params : List Datum := []
deriving Inhabited

namespace Sql

structure Fragment where
  template : String
  params : List Datum := []
deriving Inhabited

def quoteAfter (inside : Option Char) (c : Char) : Option Char :=
  match inside with
  | none => if c = '"' ∨ c = '\'' then some c else none
  | some quote => if c = quote then none else some quote

def markerCount (inside : Option Char) : List Char → Nat
  | [] => 0
  | c :: rest =>
    (if inside = none ∧ c = '?' then 1 else 0) + markerCount (quoteAfter inside c) rest

def placeholder (position : Nat) : String := "$" ++ toString position

def numbered (inside : Option Char) (next : Nat) : List Char → List Char
  | [] => []
  | c :: rest =>
    if inside = none ∧ c = '?' then
      (placeholder next).toList ++ numbered none (next + 1) rest
    else c :: numbered (quoteAfter inside c) next rest

def number (next : Nat) (template : String) : String :=
  String.ofList (numbered none next template.toList)

/-- A fragment that has been bound: its text and the positions it took. -/
structure Bound where
  sql : String
  positions : List Nat
deriving Inhabited

def Bound.placeholder (bound : Bound) (i : Nat) : String :=
  (bound.positions[i]?.map Sql.placeholder).getD ""

structure Builder where
  first : Nat := 1
  params : List Datum := []
deriving Inhabited

namespace Builder

def startingAt (first : Nat) : Builder := { first := max first 1 }

def next (b : Builder) : Nat := b.first + b.params.length

def misfit (fragment : Fragment) (markers : Nat) : Error :=
  .internal ("fragment '" ++ fragment.template ++ "' has " ++ toString markers ++
    " placeholders but " ++ toString fragment.params.length ++ " parameters")

def bind (b : Builder) (fragment : Fragment) : Except Error (Bound × Builder) :=
  let markers := markerCount none fragment.template.toList
  if markers = fragment.params.length then
    .ok ({ sql := number b.next fragment.template, positions := List.range' b.next markers },
      { b with params := b.params ++ fragment.params })
  else .error (misfit fragment markers)

/-- Binds a template that takes no parameters, so no positions are given back. -/
def fragment (b : Builder) (template : String) : Except Error (String × Builder) := do
  let (bound, b) ← b.bind { template }
  return (bound.sql, b)

end Builder

abbrev Assembly := StateT Builder (Except Error)

namespace Assembly

def bind (fragment : Fragment) : Assembly String := do
  let (bound, b) ← (← get).bind fragment
  set b
  return bound.sql

def next : Assembly Nat := return (← get).next

def runFrom {α : Type} (first : Nat) (work : Assembly α) : Except Error (α × List Datum) := do
  let (result, b) ← work.run (.startingAt first)
  return (result, b.params)

def statement (work : Assembly String) : Except Error Statement := do
  let (sql, params) ← work.runFrom 1
  return { sql, params }

end Assembly
end Sql
end DocSql
