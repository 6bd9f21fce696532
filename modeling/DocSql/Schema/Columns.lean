import DocSql.Schema.Basic

/-!
The columns of a class table: those of the declared fields, the ones every
class has, and the bookkeeping of accounts. A declared type goes first.
-/
namespace DocSql.Schema

def defaultColumns : List (String × FieldType) :=
  [("objectId", .string), ("createdAt", .date), ("updatedAt", .date)]

def isDefaultDate (name : String) : Bool := name == "createdAt" || name == "updatedAt"

def isDefaultColumn (name : String) : Bool := name == "objectId" || isDefaultDate name

def userColumns : List (String × FieldType) :=
  [("_email_verify_token_expires_at", .date), ("_email_verify_token", .string),
    ("_account_lockout_expires_at", .date), ("_failed_login_count", .number),
    ("_perishable_token", .string), ("_perishable_token_expires_at", .date),
    ("_password_changed_at", .date), ("_password_history", .array)]

def addMissing (fields : Entries FieldType) (columns : List (String × FieldType)) :
    Entries FieldType :=
  columns.foldl (fun all column => Entries.insertNew all column.1 column.2) fields

def columns (schema : Schema) : Entries FieldType :=
  let fields := addMissing schema.toStorage.columnFields defaultColumns
  if schema.isUserClass then addMissing fields userColumns else fields

end DocSql.Schema
