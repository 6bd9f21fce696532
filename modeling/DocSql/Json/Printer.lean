import DocSql.Json.Basic

/-!
The one printed form of a JSON value: no spaces, members by increasing name,
only quotes, backslashes and control characters escaped.
-/
namespace DocSql.Json

def escapeChar (c : Char) : List Char :=
  match c with
  | '"' => ['\\', '"']
  | '\\' => ['\\', '\\']
  | '\x08' => ['\\', 'b']
  | '\x0c' => ['\\', 'f']
  | '\n' => ['\\', 'n']
  | '\r' => ['\\', 'r']
  | '\t' => ['\\', 't']
  | c =>
    if c.toNat < 32 then
      ['\\', 'u', '0', '0', Nat.digitChar (c.toNat / 16), Nat.digitChar (c.toNat % 16)]
    else [c]

def quoted (s : String) : String :=
  "\"" ++ String.ofList (s.toList.flatMap escapeChar) ++ "\""

mutual

def text : Json → String
  | null => "null"
  | bool true => "true"
  | bool false => "false"
  | num n => n.text
  | str s => quoted s
  | arr items => "[" ++ String.intercalate "," (itemTexts items) ++ "]"
  | obj members => "\x7b" ++ String.intercalate "," (memberTexts members) ++ "\x7d"

def itemTexts : List Json → List String
  | [] => []
  | item :: rest => text item :: itemTexts rest

def memberTexts : List (String × Json) → List String
  | [] => []
  | (name, value) :: rest => (quoted name ++ ":" ++ text value) :: memberTexts rest

end

instance : ToString Json := ⟨text⟩

end DocSql.Json
