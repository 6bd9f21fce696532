import DocSql.Error
import DocSql.Json.Basic

/-!
The types that a schema declares for its fields, their JSON form, and the
column that holds a value of each. A relation has no column: its rows stand in
a join table. An array of texts is a native text array, any other is JSON.
-/
namespace DocSql

inductive FieldType
  | string
  | number
  | boolean
  | date
  | object
  | bytes
  | file
  | pointer (target : String)
  | relation (target : String)
  | geoPoint
  | polygon
  | array
  | arrayOf (contents : FieldType)
deriving DecidableEq, Inhabited

namespace FieldType

def isArray : FieldType → Bool
  | array | arrayOf _ => true
  | _ => false

def isTextArray : FieldType → Bool
  | arrayOf string => true
  | _ => false

def isRelation : FieldType → Bool
  | relation _ => true
  | _ => false

def name : FieldType → String
  | string => "String"
  | number => "Number"
  | boolean => "Boolean"
  | date => "Date"
  | object => "Object"
  | bytes => "Bytes"
  | file => "File"
  | pointer _ => "Pointer"
  | relation _ => "Relation"
  | geoPoint => "GeoPoint"
  | polygon => "Polygon"
  | array | arrayOf _ => "Array"

def idColumnType : String := "varchar(120)"

def columnType : FieldType → Except Error String
  | string | file => .ok "text"
  | number => .ok "double precision"
  | boolean => .ok "boolean"
  | date => .ok "timestamp"
  | object | bytes | array => .ok "jsonb"
  | arrayOf contents => .ok (if contents = string then "text[]" else "jsonb")
  | pointer _ => .ok idColumnType
  | geoPoint => .ok "point"
  | polygon => .ok "polygon"
  | relation target => .error (.invalidSchema
      ("Relation<" ++ target ++ "> fields are stored in join tables, not columns"))

def toJson : FieldType → Json
  | pointer target => .object [("type", .str "Pointer"), ("targetClass", .str target)]
  | relation target => .object [("type", .str "Relation"), ("targetClass", .str target)]
  | arrayOf contents => .object [("type", .str "Array"), ("contents", contents.toJson)]
  | other => .object [("type", .str other.name)]

def ofName? : String → Option FieldType
  | "String" => some string
  | "Number" => some number
  | "Boolean" => some boolean
  | "Date" => some date
  | "Object" => some object
  | "Bytes" => some bytes
  | "File" => some file
  | "GeoPoint" => some geoPoint
  | "Polygon" => some polygon
  | "Array" => some array
  | _ => none

def ofTarget? (name target : String) : Option FieldType :=
  if name = "Pointer" then some (pointer target)
  else if name = "Relation" then some (relation target)
  else none

mutual

/-- Reads a type: an object with a `type` and what that type needs, other
members being ignored, or a list of the same parts in order. -/
def ofJson? : Json → Option FieldType
  | .obj members =>
    match Entries.find? members "type" with
    | some (.str "Array") =>
      match contents? members with
      | some (some contents) => some (arrayOf contents)
      | some none => some array
      | none => none
    | some (.str name) =>
      (ofName? name).or (((Entries.find? members "targetClass").bind Json.str?).bind (ofTarget? name))
    | _ => none
  | .arr [.str name] => ofName? name
  | .arr [.str "Array", .null] => some array
  | .arr [.str "Array", contents] => (ofJson? contents).map arrayOf
  | .arr [.str name, .str target] => ofTarget? name target
  | _ => none

def contents? : List (String × Json) → Option (Option FieldType)
  | [] => some none
  | (name, value) :: rest =>
    if name = "contents" then
      match value with
      | .null => some none
      | value => (ofJson? value).map some
    else contents? rest

end

end FieldType
end DocSql
