import DocSql.Storage.Codec

/-!
Result rows as documents. A document has no null member: a null column is left
out, and a relation stands in it whether or not the row has such a column.
-/
namespace DocSql

def Schema.decodeColumn (schema : Schema) (column : String) (raw : Datum) : Except Error Json :=
  match schema.field? column with
  | some type => raw.decode type
  | none => .ok raw.toDocument

namespace Row

def present (schema : Schema) (row : Row) : Except Error (Entries Json) := do
  let decoded ← (row.filter (!·.2.isNull)).mapM fun (column, raw) =>
    return (column, ← schema.decodeColumn column raw)
  return decoded.filter (!·.2.isNull)

def addRelation (document : Entries Json) (field : String × FieldType) : Entries Json :=
  match field.2 with
  | .relation target => Entries.insert document field.1 (Datum.relationJson target)
  | _ => document

def toDocument (schema : Schema) (row : Row) : Except Error (Entries Json) := do
  return schema.relationFields.foldl addRelation (← present schema row)

def toDocuments (schema : Schema) (rows : List Row) : Except Error (List Json) :=
  rows.mapM fun row => .obj <$> toDocument schema row

end Row
end DocSql
