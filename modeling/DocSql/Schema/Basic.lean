import DocSql.Schema.FieldType

/-!
Class schemas. The storage view adds the columns that requests never declare,
the document view takes them away and fills in default permissions; neither
looks at anything but the class name and the declared parts.
-/
namespace DocSql

structure Schema where
  className : String := ""
  fields : Entries FieldType := []
  permissions : Option Json := none
  indexes : Option (Entries (Entries Json)) := none
deriving Inhabited

namespace Schema

def readPermissions : String := "_rperm"
def writePermissions : String := "_wperm"
def passwordHash : String := "_hashed_password"

def isPermissionField (name : String) : Bool := name == readPermissions || name == writePermissions

def isUserClass (schema : Schema) : Bool := schema.className == "_User"

def field? (schema : Schema) (name : String) : Option FieldType := Entries.find? schema.fields name

def named (schema : Schema) (className : String) : Schema := { schema with className }

def relationFields (schema : Schema) : Entries FieldType := schema.fields.filter (·.2.isRelation)

def columnFields (schema : Schema) : Entries FieldType := schema.fields.filter (!·.2.isRelation)

def joinTable (className field : String) : String := "_Join:" ++ field ++ ":" ++ className

def toStorage (schema : Schema) : Schema :=
  let fields := Entries.insert schema.fields readPermissions (.arrayOf .string)
  let fields := Entries.insert fields writePermissions (.arrayOf .string)
  { schema with
    fields := if schema.isUserClass then Entries.insert fields passwordHash .string else fields }

def defaultPermissions : Entries Json :=
  let everybody := Json.object [("*", .bool true)]
  Entries.ofList [("find", everybody), ("get", everybody), ("count", everybody),
    ("create", everybody), ("update", everybody), ("delete", everybody),
    ("addField", everybody), ("protectedFields", .object [("*", .arr [])])]

def documentPermissions (given : Option Json) : Json :=
  match given with
  | some (.obj members) =>
    .obj (members.foldl (fun all entry => Entries.insert all entry.1 entry.2) defaultPermissions)
  | _ => .obj defaultPermissions

def toDocument (schema : Schema) : Schema :=
  let fields := Entries.erase (Entries.erase schema.fields readPermissions) writePermissions
  { schema with
    fields := if schema.isUserClass then Entries.erase fields passwordHash else fields
    permissions := some (documentPermissions schema.permissions)
    indexes := schema.indexes.filter (!·.isEmpty) }

def toJson (schema : Schema) : Json :=
  let name := if schema.className.isEmpty then [] else [("className", Json.str schema.className)]
  let permissions := schema.permissions.toList.map fun p => ("classLevelPermissions", p)
  let indexes := schema.indexes.toList.map fun all => ("indexes", Json.obj (Entries.mapValues .obj all))
  .object (name ++ [("fields", .obj (Entries.mapValues FieldType.toJson schema.fields))] ++
    permissions ++ indexes)

def fieldsOfJson? (value : Json) : Option (Entries FieldType) := do
  (← value.obj?).mapM fun (name, type) => return (name, ← FieldType.ofJson? type)

def indexesOfJson? : Json → Option (Option (Entries (Entries Json)))
  | .null => some none
  | value => do
    let all ← (← value.obj?).mapM fun (name, keys) => return (name, ← keys.obj?)
    some (some all)

def ofParts? (className fields permissions indexes : Option Json) : Option Schema := do
  let className ← className.elim (some "") Json.str?
  let fields ← fields.elim (some []) fieldsOfJson?
  let indexes ← indexes.elim (some none) indexesOfJson?
  some { className, fields, permissions := permissions.filter (!·.isNull), indexes }

/-- Reads a schema: an object whose unknown members are ignored, or a list of
the parts in order. -/
def ofJson? : Json → Option Schema
  | .obj members =>
    let part := Entries.find? members
    ofParts? (part "className") (part "fields") (part "classLevelPermissions") (part "indexes")
  | .arr parts =>
    if 4 < parts.length then none else ofParts? parts[0]? parts[1]? parts[2]? parts[3]?
  | _ => none

end Schema
end DocSql
