import DocSql.Json.Reader

/-!
Flat TOML documents: lines that set a key to a text, a whole number or a truth
value, with comments and empty lines between them. `ofText?` reads a document
and `render` writes one; a key stands at most once.
-/
namespace DocSql.Toml

inductive Value
  | text (value : String)
  | int (value : Int)
  | bool (value : Bool)
deriving DecidableEq, Inhabited

abbrev Table := List (String × Value)

namespace Reader

def isBlank (c : Char) : Bool := c == ' ' || c == '\t'

def skipBlanks (cs : List Char) : List Char := cs.dropWhile isBlank

def isPlain (c : Char) : Bool := c == '\t' || (32 ≤ c.toNat && c.toNat != 127)

def isKeyChar (c : Char) : Bool := c.isAlphanum || c == '_' || c == '-'

def charOf? (code : Nat) : Option Char :=
  if code.isValidChar then some (Char.ofNat code) else none

def escape? : List Char → Option (Char × List Char)
  | '"' :: rest => some ('"', rest)
  | '\\' :: rest => some ('\\', rest)
  | 'b' :: rest => some ('\x08', rest)
  | 't' :: rest => some ('\t', rest)
  | 'n' :: rest => some ('\n', rest)
  | 'f' :: rest => some ('\x0c', rest)
  | 'r' :: rest => some ('\r', rest)
  | 'u' :: rest => do
    let (code, rest) ← Json.Reader.hex4? rest
    return (← charOf? code, rest)
  | 'U' :: rest => do
    let (high, rest) ← Json.Reader.hex4? rest
    let (low, rest) ← Json.Reader.hex4? rest
    return (← charOf? (high * 65536 + low), rest)
  | _ => none

/-- A text with escapes up to its closing quote. Each step consumes input, so
the length of the text bounds the number of steps. -/
def escapedBody? : Nat → List Char → Option (List Char × List Char)
  | 0, _ => none
  | _ + 1, [] => none
  | steps + 1, c :: rest =>
    if c = '"' then some ([], rest)
    else if c = '\\' then do
      let (read, rest) ← escape? rest
      let (tail, rest) ← escapedBody? steps rest
      return (read :: tail, rest)
    else if isPlain c then do
      let (tail, rest) ← escapedBody? steps rest
      return (c :: tail, rest)
    else none

def literalBody? : List Char → Option (List Char × List Char)
  | [] => none
  | c :: rest =>
    if c = '\'' then some ([], rest)
    else if isPlain c then (literalBody? rest).map fun (tail, rest) => (c :: tail, rest)
    else none

def quoted? : List Char → Option (String × List Char)
  | '"' :: rest => (escapedBody? (rest.length + 1) rest).map fun (s, rest) => (String.ofList s, rest)
  | '\'' :: rest => (literalBody? rest).map fun (s, rest) => (String.ofList s, rest)
  | _ => none

def digitRun? (isDigit : Char → Bool) : List Char → Option (List Char × List Char)
  | [] => none
  | [c] => if isDigit c then some ([c], []) else none
  | c :: next :: rest =>
    if isDigit c then
      if next = '_' then (digitRun? isDigit rest).map fun (ds, rest) => (c :: ds, rest)
      else if isDigit next then
        (digitRun? isDigit (next :: rest)).map fun (ds, rest) => (c :: ds, rest)
      else some ([c], next :: rest)
    else none

def digitOf (c : Char) : Nat :=
  if c.isDigit then c.toNat - '0'.toNat else c.toLower.toNat - 'a'.toNat + 10

def isDigitOf (base : Nat) (c : Char) : Bool :=
  (c.isDigit || ('a' ≤ c.toLower && c.toLower ≤ 'f')) && digitOf c < base

def valueOf (base : Nat) (ds : List Char) : Nat := ds.foldl (fun n d => base * n + digitOf d) 0

def decimal? : List Char → Option (Int × List Char)
  | '0' :: rest => some (0, rest)
  | cs => (digitRun? (isDigitOf 10) cs).map fun (ds, rest) => ((valueOf 10 ds : Nat), rest)

def based? (base : Nat) (cs : List Char) : Option (Int × List Char) :=
  (digitRun? (isDigitOf base) cs).map fun (ds, rest) => (valueOf base ds, rest)

def int? (cs : List Char) : Option (Int × List Char) := do
  let (n, rest) ← match cs with
    | '0' :: 'x' :: rest => based? 16 rest
    | '0' :: 'o' :: rest => based? 8 rest
    | '0' :: 'b' :: rest => based? 2 rest
    | '-' :: rest => (decimal? rest).map fun (n, rest) => (-n, rest)
    | '+' :: rest => decimal? rest
    | rest => decimal? rest
  if Number.minInt64 ≤ n ∧ n ≤ Number.maxInt64 then some (n, rest) else none

def value? : List Char → Option (Value × List Char)
  | 't' :: 'r' :: 'u' :: 'e' :: rest => some (.bool true, rest)
  | 'f' :: 'a' :: 'l' :: 's' :: 'e' :: rest => some (.bool false, rest)
  | cs =>
    match cs.head? with
    | some '"' | some '\'' => (quoted? cs).map fun (s, rest) => (.text s, rest)
    | _ => (int? cs).map fun (n, rest) => (.int n, rest)

def key? (cs : List Char) : Option (String × List Char) :=
  match cs.head? with
  | some '"' | some '\'' => quoted? cs
  | _ =>
    let name := cs.takeWhile isKeyChar
    if name.isEmpty then none else some (String.ofList name, cs.dropWhile isKeyChar)

def isDone (cs : List Char) : Bool :=
  match skipBlanks cs with
  | [] => true
  | '#' :: comment => comment.all isPlain
  | _ => false

def line? (cs : List Char) : Option (Option (String × Value)) :=
  if isDone cs then some none
  else do
    let (key, rest) ← key? (skipBlanks cs)
    match skipBlanks rest with
    | '=' :: rest =>
      let (value, rest) ← value? (skipBlanks rest)
      if isDone rest then some (some (key, value)) else none
    | _ => none

/-- The lines of a text. A line feed ends a line, with a carriage return or
without; what follows the last one is a line too. -/
def lines : List Char → List (List Char)
  | [] => [[]]
  | '\n' :: rest => [] :: lines rest
  | '\r' :: '\n' :: rest => [] :: lines rest
  | c :: rest =>
    match lines rest with
    | [] => [[c]]
    | line :: more => (c :: line) :: more

def table? (table : Table) : List (List Char) → Option Table
  | [] => some table
  | cs :: rest => do
    match ← line? cs with
    | none => table? table rest
    | some (key, value) =>
      if table.any (·.1 == key) then none else table? (table ++ [(key, value)]) rest

end Reader

def ofText? (text : String) : Option Table :=
  match text.toList with
  | '\ufeff' :: rest => Reader.table? [] (Reader.lines rest)
  | cs => Reader.table? [] (Reader.lines cs)

def renderChar (c : Char) : List Char :=
  match c with
  | '"' => ['\\', '"']
  | '\\' => ['\\', '\\']
  | c =>
    if Reader.isPlain c then [c]
    else
      let ds := Nat.toDigits 16 c.toNat
      ['\\', 'u'] ++ List.replicate (4 - ds.length) '0' ++ ds

def Value.render : Value → String
  | text s => String.ofList ('"' :: (s.toList.flatMap renderChar ++ ['"']))
  | int n => toString n
  | bool b => if b then "true" else "false"

def render (table : Table) : String :=
  String.join (table.map fun (key, value) => key ++ " = " ++ value.render ++ "\n")

def find? (table : Table) (key : String) : Option Value :=
  (table.find? (·.1 == key)).map (·.2)

end DocSql.Toml
