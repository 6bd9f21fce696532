import DocSql.Error
import DocSql.Json.Printer
import DocSql.Sql.Quote

/-!
Update documents after reading: what happens to each column. Dotted keys of one
field gather into a patch of its object, and the providers of `authData` into
one list, whether they come by themselves or inside the whole.
-/
namespace DocSql

inductive ListChange
  | add
  | remove
  | addUnique
deriving DecidableEq, Inhabited

/-- A change of some keys of an object: removals, then increments, then values.
The object that is changed is the stored one, or else the empty one. -/
structure Patch where
  merge : Bool := false
  deletes : List String := []
  increments : List (String × Number) := []
  values : Entries Json := []
deriving Inhabited

inductive Change
  | set (value : Json)
  | unset
  | increment (amount : Number)
  | list (change : ListChange) (items : List Json)
  | providers (entries : List (String × Option Json))
  | patch (keys : Patch)
deriving Inhabited

abbrev Update := Entries Change

namespace Change

def operation? (value : Json) : Option String := value.getStr? "__op"

def amount (value : Json) : Except Error Number :=
  match value.get? "amount" with
  | some (.num n) => .ok n
  | _ => .error (.invalidQuery "Increment amount must be a number")

def listItems (value : Json) : Except Error (List Json) :=
  match value.get? "objects" with
  | some (.arr items) => .ok items
  | _ => .error (.invalidQuery "objects to add must be an array")

def ofJson (value : Json) : Except Error Change :=
  if value.isNull then .ok unset
  else match operation? value with
    | none => .ok (set value)
    | some "Increment" => increment <$> amount value
    | some "Add" => list .add <$> listItems value
    | some "Remove" => list .remove <$> listItems value
    | some "AddUnique" => list .addUnique <$> listItems value
    | some "Delete" => .ok unset
    | some other => .error (.unsupported
        ("Postgres doesn't support update operation " ++ other ++ " yet"))

end Change

namespace Patch

/-- Puts a value at a path, making objects of what stands in the way. -/
def insertPath (target : Entries Json) (path : List String) (value : Json) : Entries Json :=
  match path with
  | [] => target
  | [key] => Entries.insert target key value
  | key :: rest =>
    let child := ((Entries.find? target key).bind Json.obj?).getD []
    Entries.insert target key (.obj (insertPath child rest value))

def add (keys : Patch) (field : String) (path : List String) (value : Json) :
    Except Error Patch :=
  match Change.operation? value, path with
  | none, path => .ok { keys with values := insertPath keys.values path value }
  | some "Increment", [key] => do
    return { keys with increments := keys.increments ++ [(key, ← Change.amount value)] }
  | some "Delete", [key] => .ok { keys with deletes := keys.deletes ++ [key] }
  | some operation, path => .error (.unsupported
      (operation ++ " on nested key '" ++ String.intercalate "." (field :: path) ++
        "' is not supported"))

/-- Keeps what is there and adds the other keys of a whole object. -/
def under (keys : Patch) (whole : Entries Json) : Patch :=
  { keys with
    merge := false
    values := whole.foldl (fun all entry => Entries.insertNew all entry.1 entry.2) keys.values }

end Patch

namespace Update

def patchOf (update : Update) (field : String) : Except Error Patch :=
  match Entries.find? update field with
  | none => .ok { merge := true }
  | some (.patch keys) => .ok keys
  | some (.set (.obj whole)) => .ok { values := whole }
  | some _ => .error (.invalidQuery ("conflicting updates for field '" ++ field ++ "'"))

def addField (update : Update) (key : String) (value : Json) : Except Error Update :=
  match Sql.segments key with
  | field :: step :: path => do
    let keys ← patchOf update field
    return Entries.insert update field (.patch (← keys.add field (step :: path) value))
  | _ => do
    let change ← Change.ofJson value
    match Entries.find? update key, change with
    | some (.patch keys), .set (.obj whole) =>
      return Entries.insert update key (.patch (keys.under whole))
    | _, _ => return Entries.insert update key change

def providerKey : List Char := "_auth_data_".toList

def provider? (key : String) : Option String :=
  if providerKey.isPrefixOf key.toList then
    some (String.ofList (key.toList.drop providerKey.length))
  else none

def providerValue (value : Json) : Option Json :=
  if value.isNull || Change.operation? value == some "Delete" then none else some value

def providers? (key : String) (value : Json) : Option (List (String × Option Json)) :=
  match provider? key, value with
  | some provider, value => some [(provider, providerValue value)]
  | none, .obj members =>
    if key = "authData" then some (members.map fun (name, value) => (name, providerValue value))
    else none
  | none, _ => none

def addMembers (update : Update) (entries : List (String × Option Json)) :
    List (String × Json) → Except Error Update
  | [] =>
    .ok (if entries.isEmpty then update else Entries.insert update "authData" (.providers entries))
  | (key, value) :: rest =>
    match providers? key value with
    | some more => addMembers update (entries ++ more) rest
    | none => do addMembers (← addField update key value) entries rest

def ofJson : Json → Except Error Update
  | .obj members => addMembers [] [] members
  | value => .error (.invalidQuery ("update must be an object: " ++ value.text))

end Update
end DocSql
