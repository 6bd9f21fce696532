import DocSql.Error
import DocSql.Json.Printer
import DocSql.Text.Alphanumeric
import DocSql.Text.Blank
import DocSql.Text.Search

/-!
Client patterns in the dialect of the engine. Clients quote literal text as
`\Q…\E`; the engine has no such runs, so every character in them that could
mean something is escaped. An anchored quoted run alone is also a LIKE prefix.
-/
namespace DocSql.Pattern

def escaped (c : Char) : List Char :=
  if Text.isAlphanumeric c || c == ' ' then [c] else ['\\', c]

def ofLiteral (text : List Char) : List Char := text.flatMap escaped

/-- Escapes quoted runs, starting inside one or not. An open run reaches to the
end, a stray end mark is dropped, and other escapes outside runs stay. -/
def literalizeFrom : Bool → List Char → List Char
  | _, [] => []
  | _, '\\' :: 'E' :: rest => literalizeFrom false rest
  | false, '\\' :: 'Q' :: rest => literalizeFrom true rest
  | false, '\\' :: c :: rest => '\\' :: c :: literalizeFrom false rest
  | false, c :: rest => c :: literalizeFrom false rest
  | true, c :: rest => escaped c ++ literalizeFrom true rest

def literalize (pattern : List Char) : List Char := literalizeFrom false pattern

/-- The pattern in the engine's dialect. A leading anchor, or else a trailing
one, is kept apart. -/
def toEngine (pattern : List Char) : List Char :=
  match pattern with
  | '^' :: rest => '^' :: literalize rest
  | _ =>
    if pattern.getLast? = some '$' then literalize pattern.dropLast ++ ['$']
    else literalize pattern

/-- Removes blanks and comments that are not escaped, starting inside a
comment or not; a comment runs from `#` to the end of its line. -/
def stripFrom : Bool → List Char → List Char
  | _, [] => []
  | true, c :: rest => stripFrom (c != '\n') rest
  | false, '\\' :: c :: rest => '\\' :: c :: stripFrom false rest
  | false, c :: rest =>
    if c = '#' then stripFrom true rest
    else if Text.isBlank c then stripFrom false rest
    else c :: stripFrom false rest

def strip (pattern : List Char) : List Char := stripFrom false pattern

def isLiteralStart (pattern : List Char) : Bool :=
  pattern.head? == some '^' &&
    match Text.after? ['^', '\\', 'Q'] pattern with
    | some rest => (Text.after? ['\\', 'E'] rest).isSome
    | none => false

def ofJson? (value : Json) : Option (List Char) := (value.getStr? "$regex").map String.toList

def isLiteralStartJson (value : Json) : Bool := (ofJson? value).any isLiteralStart

def anyLiteralStart (values : List Json) : Bool := values.any isLiteralStartJson

def allOrNoneLiteralStart (values : List Json) : Bool :=
  match values with
  | [] => true
  | first :: rest => rest.all fun value => isLiteralStartJson value == isLiteralStartJson first

def likeStart (value : Json) : Except Error Json :=
  match ofJson? value with
  | none => .error (.invalidQuery ("bad $all value: " ++ value.text))
  | some pattern =>
    let start := match toEngine pattern with
      | '^' :: rest => rest
      | other => other
    .ok (.str (String.ofList (start ++ ['%'])))

def likeStarts (values : List Json) : Except Error (List Json) :=
  if allOrNoneLiteralStart values then values.mapM likeStart
  else .error (.invalidQuery
    ("All $all values must be of regex type or none: " ++ (Json.arr values).text))

end DocSql.Pattern
