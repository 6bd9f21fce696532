import DocSql.Json.Reader
import DocSql.Schema.Basic

/-!
Schemas in text form. Unlike in other JSON, the members that a schema is read
from must not repeat, and every field of a repeated name needs a valid type.
-/
namespace DocSql

def Json.isSingle (members : List (String × Json)) (name : String) : Bool :=
  (members.filter (·.1 == name)).length ≤ 1

namespace FieldType

def detail : Option Json → List String
  | some (.str "Array") => ["contents"]
  | some (.str "Pointer") | some (.str "Relation") => ["targetClass"]
  | _ => []

mutual

def isSingle : Json → Bool
  | .obj members =>
    let tag := Entries.find? members "type"
    ("type" :: detail tag).all (Json.isSingle members) &&
      (!(detail tag).contains "contents" || contentsSingle members)
  | .arr [_, contents] => isSingle contents
  | _ => true

def contentsSingle : List (String × Json) → Bool
  | [] => true
  | (name, value) :: rest => (name != "contents" || isSingle value) && contentsSingle rest

end

def isWritten (value : Json) : Bool := isSingle value && (ofJson? value.sorted).isSome

end FieldType

namespace Schema

def partNames : List String := ["className", "fields", "classLevelPermissions", "indexes"]

/-- Whether the fields and indexes of a schema as written are valid, those of
a repeated name included. -/
def isWrittenPart (name : String) (value : Json) : Bool :=
  match value with
  | .obj members =>
    if name = "fields" then members.all (FieldType.isWritten ·.2)
    else if name = "indexes" then members.all (·.2.obj?.isSome)
    else true
  | _ => true

def isWritten : Json → Bool
  | .obj members =>
    partNames.all (Json.isSingle members) && members.all fun part => isWrittenPart part.1 part.2
  | .arr parts => (partNames.zip parts).all fun part => isWrittenPart part.1 part.2
  | _ => true

def ofText? (text : String) : Option Schema := do
  let written ← Json.written? text
  if isWritten written then ofJson? written.sorted else none

end Schema
end DocSql
