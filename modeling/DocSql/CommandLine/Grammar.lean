/-!
The grammar of a command line: commands with named options, operands in a fixed
order, and commands below them. `Grammar.read` takes arguments from left to
right and stops at the first that does not fit, so of several mistakes the
first one counts, and a request for help is answered unless a mistake precedes it.
-/
namespace DocSql.CommandLine

inductive Kind
  /-- An option without a value. -/
  | flag
  | text
  /-- A text that is not empty. -/
  | path
  /-- A whole number of 64 bits without a sign, or with a plus sign. -/
  | count
deriving DecidableEq, Inhabited

structure Parameter where
  name : String
  about : String := ""
  kind : Kind := .text
  /-- The letter of an option's short form. -/
  short : Option Char := none
  required : Bool := false
  default : Option String := none
deriving DecidableEq, Inhabited

structure Grammar where
  name : String
  about : String
  options : List Parameter := []
  operands : List Parameter := []
deriving DecidableEq, Inhabited

inductive Stop
  | mistake
  /-- Help on the command under way is asked for. -/
  | help
deriving DecidableEq, Inhabited

abbrev Values := List (String × String)

def Values.get? (values : Values) (name : String) : Option String :=
  (values.find? (·.1 == name)).map (·.2)

def Values.has (values : Values) (name : String) : Bool := (values.get? name).isSome

def count? (text : String) : Option Nat :=
  let ds := match text.toList with
    | '+' :: ds => ds
    | ds => ds
  let n := ds.foldl (fun n d => 10 * n + (d.toNat - '0'.toNat)) 0
  if ds.isEmpty || !ds.all Char.isDigit || 18446744073709551616 ≤ n then none else some n

def Kind.accepts : Kind → String → Bool
  | .flag, _ | .text, _ => true
  | .path, value => value ≠ ""
  | .count, value => (count? value).isSome

/-- How far reading has come. The last option is checked only when the next
parameter starts, since its value may still be missing. -/
structure Progress where
  values : Values := []
  pending : Option (Parameter × Option String) := none
  /-- The operands that are not given yet. -/
  operands : List Parameter
deriving DecidableEq, Inhabited

namespace Progress

def awaitsValue (progress : Progress) : Bool :=
  match progress.pending with
  | some (_, none) => true
  | _ => false

/-- Checks the option under way: it needs a fitting value, and stands once. -/
def settle (progress : Progress) : Except Stop Progress :=
  match progress.pending with
  | none => .ok progress
  | some (_, none) => .error .mistake
  | some (option, some value) =>
    if option.kind.accepts value && !progress.values.has option.name then
      .ok { progress with values := progress.values ++ [(option.name, value)], pending := none }
    else .error .mistake

def start (progress : Progress) (option : Parameter) (attached : Option String) :
    Except Stop Progress := do
  let progress ← progress.settle
  let progress := { progress with pending := some (option, attached) }
  match attached with
  | none => return progress
  | some _ => progress.settle

def take (progress : Progress) (arg : String) : Except Stop Progress := do
  match progress.pending with
  | some (option, none) => return { progress with pending := some (option, some arg) }
  | _ =>
    let progress ← progress.settle
    match progress.operands with
    | [] => throw .mistake
    | operand :: rest =>
      return { progress with values := progress.values ++ [(operand.name, arg)], operands := rest }

end Progress

def splitValue : List Char → List Char × Option (List Char)
  | [] => ([], none)
  | c :: rest =>
    if c = '=' then ([], some rest)
    else
      let (name, value) := splitValue rest
      (c :: name, value)

namespace Grammar

def long (grammar : Grammar) (progress : Progress) (body : List Char) : Except Stop Progress := do
  let (name, attached) := splitValue body
  let attached := attached.map String.ofList
  if String.ofList name = "help" then
    if attached.isSome then throw .mistake
    let _ ← progress.settle
    throw .help
  match grammar.options.find? (·.name == String.ofList name) with
  | none => throw .mistake
  | some option =>
    if option.kind = .flag then
      if attached.isSome then throw .mistake
      progress.start option (some "")
    else progress.start option attached

def short (grammar : Grammar) (progress : Progress) (letter : Char) (rest : List Char) :
    Except Stop Progress := do
  if letter = 'h' then
    let _ ← progress.settle
    throw .help
  match grammar.options.find? (·.short == some letter) with
  | none => throw .mistake
  | some option =>
    progress.start option (match rest with
      | [] => none
      | '=' :: value => some (String.ofList value)
      | value => some (String.ofList value))

def scan (grammar : Grammar) (below : List String) (progress : Progress) :
    List String → Except Stop (Progress × List String)
  | [] => return (progress, [])
  | arg :: rest => do
    if !progress.awaitsValue && below.contains arg then return (progress, arg :: rest)
    match arg.toList with
    | ['-', '-'] => return (← rest.foldlM operand progress, [])
    | '-' :: '-' :: body => scan grammar below (← grammar.long progress body) rest
    | '-' :: letter :: more => scan grammar below (← grammar.short progress letter more) rest
    | _ => scan grammar below (← progress.take arg) rest
where
  /-- Behind two dashes everything is an operand. -/
  operand (progress : Progress) (arg : String) : Except Stop Progress := do
    (← progress.settle).take arg

def start (grammar : Grammar) : Progress := { operands := grammar.operands }

def finish (grammar : Grammar) (progress : Progress) : Except Stop Values := do
  let progress ← progress.settle
  if (grammar.options ++ grammar.operands).all fun p => !p.required || progress.values.has p.name then
    return progress.values
  else throw .mistake

def read (grammar : Grammar) (args : List String) : Except Stop Values := do
  let (progress, _) ← grammar.scan [] grammar.start args
  grammar.finish progress

end Grammar
end DocSql.CommandLine
