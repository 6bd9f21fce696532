/-!
Lists of named values in strictly increasing name order. JSON objects, schema
fields, result rows and index maps are all of this form, and every walk over
them follows the order of the list.
-/
namespace DocSql

abbrev Entries (α : Type) := List (String × α)

namespace Entries

variable {α β : Type}

def find? (entries : Entries α) (name : String) : Option α :=
  match entries with
  | [] => none
  | (key, value) :: rest => if key = name then some value else find? rest name

def contains (entries : Entries α) (name : String) : Bool := (find? entries name).isSome

/-- Adds a value at its place in the order, replacing one of the same name. -/
def insert (entries : Entries α) (name : String) (value : α) : Entries α :=
  match entries with
  | [] => [(name, value)]
  | (key, held) :: rest =>
    if name < key then (name, value) :: (key, held) :: rest
    else if name = key then (name, value) :: rest
    else (key, held) :: insert rest name value

def insertNew (entries : Entries α) (name : String) (value : α) : Entries α :=
  if contains entries name then entries else insert entries name value

def erase (entries : Entries α) (name : String) : Entries α :=
  entries.filter (fun entry => entry.1 ≠ name)

def keys (entries : Entries α) : List String := entries.map (·.1)

def mapValues (f : α → β) (entries : Entries α) : Entries β :=
  entries.map (fun entry => (entry.1, f entry.2))

/-- Orders a list of pairs; of one name the last value stays. -/
def ofList (pairs : List (String × α)) : Entries α :=
  pairs.foldl (fun entries pair => insert entries pair.1 pair.2) []

end Entries
end DocSql
