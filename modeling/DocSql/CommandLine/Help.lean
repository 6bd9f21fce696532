import DocSql.CommandLine.Invocation

/-!
The help texts: what a command is for, how it is written, and its commands,
operands and options in aligned columns.
-/
namespace DocSql.CommandLine

structure HelpRow where
  left : String
  right : String

def renderRows (title : String) (rows : List HelpRow) : List String :=
  let width := rows.foldl (fun w row => max w row.left.length) 0
  if rows.isEmpty then []
  else [title ++ ":\n" ++ String.join (rows.map fun row =>
    "  " ++ row.left ++ String.ofList (List.replicate (width - row.left.length + 2) ' ') ++
      row.right ++ "\n")]

namespace Parameter

def placeholder (p : Parameter) : String :=
  String.ofList (p.name.toList.map fun c => if c = '-' then '_' else c.toUpper)

def optionText (p : Parameter) : String :=
  "--" ++ p.name ++ (if p.kind = .flag then "" else " <" ++ p.placeholder ++ ">")

def operandText (p : Parameter) : String :=
  if p.required then "<" ++ p.placeholder ++ ">" else "[" ++ p.placeholder ++ "]"

def aboutText (p : Parameter) : String :=
  let shown := p.default.toList.map fun value => "[default: " ++ value ++ "]"
  String.intercalate " " ((if p.about.isEmpty then [] else [p.about]) ++ shown)

def optionRow (p : Parameter) : HelpRow where
  left := (match p.short with
    | some c => String.ofList ['-', c, ',', ' ']
    | none => "    ") ++ p.optionText
  right := p.aboutText

def operandRow (p : Parameter) : HelpRow := ⟨p.operandText, p.aboutText⟩

end Parameter

def helpRow : HelpRow := ⟨"-h, --help", "Print help"⟩

def Grammar.usage (grammar : Grammar) : List String :=
  (if grammar.options.all (·.required) then [] else ["[OPTIONS]"]) ++
    (grammar.options.filter (·.required)).map Parameter.optionText ++
    grammar.operands.map Parameter.operandText

def helpText (about : String) (usage : List String) (sections : List String) : String :=
  String.intercalate "\n" ([about ++ "\n", "Usage: " ++ String.intercalate " " usage ++ "\n"] ++ sections)

namespace Topic

def helpAbout : String := "Print this message or the help of the given subcommand(s)"

def text : Topic → String
  | program =>
    let grammar := CommandLine.program
    helpText grammar.about ([grammar.name] ++ grammar.usage ++ ["<COMMAND>"])
      (renderRows "Commands"
        (Command.all.map (fun c => ⟨c.grammar.name, c.grammar.about⟩) ++ [⟨helpName, helpAbout⟩]) ++
       renderRows "Options" (grammar.options.map Parameter.optionRow ++ [helpRow]))
  | command c =>
    helpText c.grammar.about ([CommandLine.program.name, c.grammar.name] ++ c.grammar.usage)
      (renderRows "Arguments" (c.grammar.operands.map Parameter.operandRow) ++
       renderRows "Options" (c.grammar.options.map Parameter.optionRow ++ [helpRow]))
  | help =>
    helpText helpAbout [CommandLine.program.name, helpName, "[COMMAND]..."]
      (renderRows "Arguments" [⟨"[COMMAND]...", "Print help for the subcommand(s)"⟩])

end Topic
end DocSql.CommandLine
