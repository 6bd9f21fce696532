import DocSql.Text.Alphanumeric
import DocSql.Text.Blank

/-!
Environment variables and files that assign them. A line of such a file is
`NAME=value`; a value may be quoted, hold escapes and refer to other variables.
`assignments` reads a file, and `Environment.load` adds what it assigns.
-/
namespace DocSql

abbrev Environment := List (String × String)

namespace EnvFile

inductive Piece
  | char (c : Char)
  | reference (name : String)
deriving DecidableEq, Inhabited

structure Assignment where
  name : String
  value : List Piece
deriving DecidableEq, Inhabited

/-- Where the scan for the end of a line stands: outside quotes, after a blank
there, behind a backslash, inside quotes of either kind, or in a comment. -/
inductive Scan
  | outside
  | blank
  | escape
  | double
  | doubleEscape
  | single
  | singleEscape
  | comment
deriving DecidableEq, Inhabited

namespace Scan

/-- A comment starts at a `#` behind an odd number of blanks. -/
def next : Scan → Char → Scan
  | .outside, c =>
    if c = '\\' then .escape
    else if c = '"' then .double
    else if c = '\'' then .single
    else if Text.isBlank c && c != '\n' && c != '\r' then .blank
    else .outside
  | .blank, c =>
    if c = '#' then .comment
    else if c = '\\' then .escape
    else if c = '"' then .double
    else if c = '\'' then .single
    else .outside
  | .escape, _ => .outside
  | .double, c => if c = '\\' then .doubleEscape else if c = '"' then .outside else .double
  | .doubleEscape, _ => .double
  | .single, c => if c = '\\' then .singleEscape else if c = '\'' then .outside else .single
  | .singleEscape, _ => .single
  | .comment, _ => .comment

def isEnd : Scan → Bool
  | .outside | .comment => true
  | _ => false

def run : Scan → List Char → Scan × List Char
  | scan, [] => (scan, [])
  | scan, c :: rest =>
    match scan.next c with
    | .comment => (.comment, [])
    | scan =>
      let (last, kept) := run scan rest
      (last, c :: kept)

end Scan

def rawLines : List Char → List (List Char)
  | [] => []
  | '\n' :: rest => ['\n'] :: rawLines rest
  | c :: rest =>
    match rawLines rest with
    | [] => [[c]]
    | line :: more => (c :: line) :: more

/-- Joins lines while quotes are open. A line that starts with `#` is empty;
a last line that does not end is none. -/
def joinLines (scan : Scan) (held : List Char) : List (List Char) → List (Option (List Char))
  | [] => if scan = .outside then [] else [none]
  | line :: rest =>
    if (Text.trimStart (held ++ line)).head? = some '#' then some [] :: joinLines .outside [] rest
    else
      let (last, kept) := scan.run line
      if last.isEnd then some (held ++ kept) :: joinLines .outside [] rest
      else joinLines last (held ++ kept) rest

inductive Mode
  | bare
  | double
  | single
  /-- Behind a backslash, inside double quotes or not. -/
  | escape (quoted : Bool)
  /-- In the name of a variable behind `$`. -/
  | name (quoted : Bool) (read : List Char)
  /-- In the name of a variable between braces. -/
  | braced (quoted : Bool) (read : List Char)
  /-- Behind a value, where only blanks and a comment may follow. -/
  | done
deriving DecidableEq, Inhabited

def Mode.plain (quoted : Bool) : Mode := if quoted then .double else .bare

def reference (read : List Char) : Piece := .reference (String.ofList read)

/-- The pieces of a value. Behind a bare variable name any character but `$`
stands for itself, quotes and blanks included. -/
def pieces? : Mode → List Char → Option (List Piece)
  | .bare, [] | .done, [] | .escape false, [] => some []
  | .name false read, [] => some [reference read]
  | _, [] => none
  | .bare, c :: rest =>
    if c = '$' then pieces? (.name false []) rest
    else if c = '\'' then pieces? .single rest
    else if c = '"' then pieces? .double rest
    else if c = '\\' then pieces? (.escape false) rest
    else if c = ' ' ∨ c = '\t' then pieces? .done rest
    else (pieces? .bare rest).map (.char c :: ·)
  | .double, c :: rest =>
    if c = '$' then pieces? (.name true []) rest
    else if c = '"' then pieces? .bare rest
    else if c = '\\' then pieces? (.escape true) rest
    else (pieces? .double rest).map (.char c :: ·)
  | .single, c :: rest =>
    if c = '\'' then pieces? .bare rest else (pieces? .single rest).map (.char c :: ·)
  | .escape quoted, c :: rest =>
    if c = 'n' then (pieces? (.plain quoted) rest).map (.char '\n' :: ·)
    else if ['\\', '\'', '"', '$', ' '].contains c then
      (pieces? (.plain quoted) rest).map (.char c :: ·)
    else none
  | .name quoted read, c :: rest =>
    if Text.isAlphanumeric c then pieces? (.name quoted (read ++ [c])) rest
    else if c = '\x7b' ∧ read.isEmpty then pieces? (.braced quoted []) rest
    else if c = '$' then (pieces? (.name quoted []) rest).map (reference read :: ·)
    else (pieces? (.plain quoted) rest).map fun more => reference read :: .char c :: more
  | .braced quoted read, c :: rest =>
    if c = '\x7d' then (pieces? (.plain quoted) rest).map (reference read :: ·)
    else pieces? (.braced quoted (read ++ [c])) rest
  | .done, c :: rest =>
    if c = ' ' ∨ c = '\t' then pieces? .done rest
    else if c = '#' then some []
    else none

def isNameStart (c : Char) : Bool := c.isAlpha || c == '_'

def isNameChar (c : Char) : Bool := c.isAlphanum || c == '_' || c == '.'

def name? (cs : List Char) : Option (String × List Char) :=
  if cs.head?.any isNameStart then
    some (String.ofList (cs.takeWhile isNameChar), Text.trimStart (cs.dropWhile isNameChar))
  else none

def value? : List Char → Option (List Char)
  | '=' :: rest => some (Text.trimStart rest)
  | _ => none

/-- The assignment that starts with a name; `export` may stand before the
name, but is itself a name where an equals sign follows it. -/
def target? (cs : List Char) : Option (String × List Char) := do
  let (name, rest) ← name? cs
  match value? rest with
  | some value => return (name, value)
  | none =>
    if name ≠ "export" then none
    else
      let (name, rest) ← name? rest
      return (name, ← value? rest)

def line? (cs : List Char) : Option (Option Assignment) :=
  let cs := Text.trim cs
  if cs.isEmpty || cs.head? == some '#' then some none
  else do
    let (name, value) ← target? cs
    if value.isEmpty || value.head? == some '#' then return some { name, value := [] }
    return some { name, value := ← pieces? .bare value }

def readable : List (Option (List Char)) → List Assignment
  | [] => []
  | none :: _ => []
  | some line :: rest =>
    match line? line with
    | none => []
    | some none => readable rest
    | some (some assignment) => assignment :: readable rest

def assignments (text : String) : List Assignment :=
  let cs := match text.toList with
    | '\ufeff' :: rest => rest
    | cs => cs
  readable (joinLines .outside [] (rawLines cs))

def Assignment.variableNames (assignment : Assignment) : List String :=
  assignment.name :: assignment.value.filterMap fun
    | .char _ => none
    | .reference name => some name

end EnvFile

namespace Environment

def get? (environment : Environment) (name : String) : Option String :=
  (environment.find? (·.1 == name)).map (·.2)

def expand (environment : Environment) : EnvFile.Piece → List Char
  | .char c => [c]
  | .reference name => ((environment.get? name).getD "").toList

def assign (environment : Environment) (assignment : EnvFile.Assignment) : Environment :=
  if (environment.get? assignment.name).isSome then environment
  else environment ++
    [(assignment.name, String.ofList (assignment.value.flatMap environment.expand))]

def load (environment : Environment) (text : String) : Environment :=
  (EnvFile.assignments text).foldl assign environment

end Environment
end DocSql
