import DocSql.Sql.Builder
import DocSql.Sql.Quote

/-!
Value expressions as trees. `template` and `params` walk a tree in the same
order, so every marker of the text meets its parameter.
-/
namespace DocSql.Sql

/-- Value expressions. A parameter stands where the text has a marker, and only
`paren` writes parentheses around an expression. -/
inductive Expr
  | null
  | zero
  | quoted (text : String)
  | column (name : String)
  | jsonAt (field : String)
  | textAt (field : String)
  | param (value : Datum)
  | cast (e : Expr) (type : String)
  | castAs (e : Expr) (type : String)
  | paren (e : Expr)
  | keyText (e : Expr) (key : String)
  | array (items : List Datum)
  | elements (e : Expr)
  | combine (operation : String) (a b : Expr)
  | apply (function : String) (a : Expr)
  | apply₂ (function : String) (a b : Expr)
  | apply₃ (function : String) (a b c : Expr)
deriving Inhabited

def markers {α : Type} (items : List α) : String := String.intercalate ", " (items.map fun _ => "?")

namespace Expr

def template : Expr → String
  | null => "NULL"
  | zero => "0"
  | quoted text => literal text
  | column name => identifier name
  | jsonAt field => jsonPath field
  | textAt field => jsonTextPath field
  | param _ => "?"
  | cast e type => e.template ++ "::" ++ type
  | castAs e type => "CAST((" ++ e.template ++ ") AS " ++ type ++ ")"
  | paren e => "(" ++ e.template ++ ")"
  | keyText e key => e.template ++ "->>" ++ literal key
  | array items => "ARRAY[" ++ markers items ++ "]"
  | elements e => "ARRAY(SELECT jsonb_array_elements_text(" ++ e.template ++ "))"
  | combine operation a b => a.template ++ " " ++ operation ++ " " ++ b.template
  | apply function a => function ++ "(" ++ a.template ++ ")"
  | apply₂ function a b => function ++ "(" ++ a.template ++ ", " ++ b.template ++ ")"
  | apply₃ function a b c =>
    function ++ "(" ++ a.template ++ ", " ++ b.template ++ ", " ++ c.template ++ ")"

def params : Expr → List Datum
  | null | zero | quoted _ | column _ | jsonAt _ | textAt _ => []
  | param value => [value]
  | cast e _ | castAs e _ | paren e | keyText e _ | elements e | apply _ e => e.params
  | array items => items
  | combine _ a b | apply₂ _ a b => a.params ++ b.params
  | apply₃ _ a b c => a.params ++ b.params ++ c.params

def fragment (e : Expr) : Fragment := { template := e.template, params := e.params }

def point (p : Point) : Expr := apply₂ "POINT" (param (.float p.x)) (param (.float p.y))

def text (value : String) : Expr := param (.text value)

def json (value : Json) : Expr := cast (param (.json value)) "jsonb"

def polygon (ring : Ring) : Expr := cast (text ring.literal) "polygon"

def emptyObject : Expr := cast (quoted "\x7b\x7d") "jsonb"
def emptyList : Expr := cast (quoted "[]") "jsonb"

def coalesce (e standIn : Expr) : Expr := apply₂ "COALESCE" e standIn

def ofDatum : Datum → Expr
  | .point p => point p
  | .polygon ring => polygon ring
  | .json value => json value
  | .textArray items => cast (param (.textArray items)) "text[]"
  | other => param other

end Expr
end DocSql.Sql
