import DocSql.Json.Reader
import DocSql.Schema.Basic
import DocSql.Storage.Datum

/-!
Documents to columns and back. `encode` follows the declared type, or the tag
of the value where none is declared; `decode` undoes it for the declared type,
and `toDocument` shows a column of no declared type.
-/
namespace DocSql

namespace Timestamp

def invalid (text : String) : Error := .invalidQuery ("invalid date: " ++ text)

def parse (text : String) : Except Error Timestamp :=
  match ofText? text with
  | some t => .ok t
  | none => .error (invalid text)

def ofJson (value : Json) : Except Error Timestamp :=
  match value with
  | .str iso => parse iso
  | _ =>
    if value.typeTag? = some "Date" then
      match value.getStr? "iso" with
      | some iso => parse iso
      | none => .error (invalid value.text)
    else .error (invalid value.text)

def toJson (t : Timestamp) : Json := .object [("__type", .str "Date"), ("iso", .str t.iso)]

end Timestamp

namespace Datum

def pointerId (value : Json) : Except Error String :=
  match value with
  | .str id => .ok id
  | _ =>
    match value.getStr? "objectId" with
    | some id => .ok id
    | none => .error (.invalidQuery ("invalid pointer: " ++ value.text))

def fileName (value : Json) : Except Error String :=
  match value with
  | .str name => .ok name
  | _ =>
    match value.getStr? "name" with
    | some name => .ok name
    | none => .error (.invalidQuery ("invalid file: " ++ value.text))

def encodeTextArray (field : String) (value : Json) : Except Error Datum :=
  let expects := "field '" ++ field ++ "' expects an array of strings"
  match value with
  | .arr items => textArray <$> items.mapM fun
    | .str s => .ok s
    | item => .error (.invalidQuery (expects ++ ", got " ++ item.text))
  | _ => .error (.invalidQuery expects)

def infer (value : Json) : Except Error Datum :=
  match value.typeTag? with
  | some "Date" => timestamp <$> Timestamp.ofJson value
  | some "Pointer" => text <$> pointerId value
  | some "GeoPoint" => (point ·.toPoint) <$> GeoPoint.ofJson value
  | some "Polygon" => polygon <$> Ring.ofJson value
  | some "File" => text <$> fileName value
  | _ => .ok (ofJson value)

def encodeAs (field : String) (type : FieldType) (value : Json) : Except Error Datum :=
  match type with
  | .date => timestamp <$> Timestamp.ofJson value
  | .pointer _ => text <$> pointerId value
  | .geoPoint => (point ·.toPoint) <$> GeoPoint.ofJson value
  | .polygon => polygon <$> Ring.ofJson value
  | .file => text <$> fileName value
  | .arrayOf .string => encodeTextArray field value
  | .array | .arrayOf _ | .object | .bytes => .ok (json value)
  | .relation _ => .error (.unsupported
      ("field '" ++ field ++ "' is a relation and has no column"))
  | .string | .number | .boolean => .ok (ofJson value)

/-- Encodes the value of a field. Null needs no type, and the permission
columns are arrays of texts whatever the schema says. -/
def encode (field : String) (type? : Option FieldType) (value : Json) : Except Error Datum :=
  if value.isNull then .ok null
  else if Schema.isPermissionField field then encodeTextArray field value
  else match type? with
    | none => infer value
    | some type => encodeAs field type value

def toDocument : Datum → Json
  | null => .null
  | bool b => .bool b
  | int n => .int n
  | float x => jsonNumber x
  | text s => .str s
  | textArray items => .arr (items.map .str)
  | json value => value
  | timestamp t => t.toJson
  | point p => (GeoPoint.ofPoint p).toJson
  | polygon ring => ring.toJson

def relationJson (target : String) : Json :=
  .object [("__type", .str "Relation"), ("className", .str target)]

def readJson (text : String) : Except Error Json :=
  match Json.ofText? text with
  | some value => .ok value
  -- What is wrong is told in the words of the JSON library, which are left open.
  | none => .error (.json "invalid text")

/-- Decodes a column of a declared type. A column that holds something else
than its type writes is shown as it is. -/
def decode (type : FieldType) (raw : Datum) : Except Error Json :=
  match type, raw with
  | _, null => .ok .null
  | .date, timestamp t => .ok t.toJson
  | .date, text iso => Timestamp.toJson <$> Timestamp.parse iso
  | .pointer target, text id => .ok (.object
      [("__type", .str "Pointer"), ("className", .str target), ("objectId", .str id)])
  | .geoPoint, point p => .ok (GeoPoint.ofPoint p).toJson
  | .polygon, polygon ring => .ok ring.toJson
  | .file, text name => .ok (.object [("__type", .str "File"), ("name", .str name)])
  | .relation target, _ => .ok (relationJson target)
  | .object, text s | .bytes, text s | .array, text s | .arrayOf _, text s => readJson s
  | _, raw => .ok raw.toDocument

end Datum
end DocSql
