/-!
Failures as clients see them. A kind fixes the numeric code and whether the
request or the server is at fault; the detail is the text behind it.
-/
namespace DocSql

inductive Error
  | invalidQuery (detail : String)
  | unsupported (detail : String)
  | geometry (detail : String)
  | duplicateValue (field : Option String)
  | schemaConflict (detail : String)
  | objectNotFound
  | classNotFound (name : String)
  | invalidSchema (detail : String)
  | json (detail : String)
  | internal (detail : String)
deriving DecidableEq, Inhabited

namespace Error

def code : Error → Nat
  | invalidQuery _ => 102
  | unsupported _ => 119
  | geometry _ => 107
  | duplicateValue _ => 137
  | objectNotFound => 101
  | classNotFound _ => 103
  | invalidSchema _ => 255
  | json _ => 107
  | schemaConflict _ => 1
  | internal _ => 1

def isClientError : Error → Bool
  | internal _ | schemaConflict _ | invalidSchema _ => false
  | _ => true

def message : Error → String
  | invalidQuery detail => "Invalid query: " ++ detail
  | unsupported detail => "Operation not supported: " ++ detail
  | geometry detail => "Geometry error: " ++ detail
  | duplicateValue _ => "A duplicate value for a field with unique values was provided"
  | schemaConflict detail => "Schema conflict: " ++ detail
  | objectNotFound => "Object not found"
  | classNotFound name => "Class '" ++ name ++ "' does not exist"
  | invalidSchema detail => "Invalid schema: " ++ detail
  | json detail => "JSON error: " ++ detail
  | internal detail => "Internal error: " ++ detail

end Error
end DocSql
