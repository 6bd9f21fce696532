/-!
Names and texts inside SQL. An identifier stands between double quotes, a
literal between single ones, and the quote itself is written twice. A dotted
field is a column and the steps into its JSON value.
-/
namespace DocSql.Sql

def doubled (quote : Char) : List Char → List Char
  | [] => []
  | c :: rest => if c = quote then c :: c :: doubled quote rest else c :: doubled quote rest

def enclose (quote : Char) (text : String) : String :=
  String.ofList (quote :: (doubled quote text.toList ++ [quote]))

def identifier (name : String) : String := enclose '"' name

def literal (text : String) : String := enclose '\'' text

def segments (field : String) : List String := (field.toList.splitOn '.').map String.ofList

def isDotted (field : String) : Bool := field.toList.contains '.'

def steps (segments : List String) : String :=
  String.join (segments.map fun segment => "->" ++ literal segment)

def jsonPath (field : String) : String :=
  match segments field with
  | column :: path => identifier column ++ steps path
  | [] => identifier ""

/-- The text at a dotted field: the last step reads text. -/
def jsonTextPath (field : String) : String :=
  match segments field with
  | [] => identifier ""
  | [column] => identifier column
  | column :: path =>
    identifier column ++ steps path.dropLast ++ "->>" ++ literal (path.getLast?.getD "")

end DocSql.Sql
