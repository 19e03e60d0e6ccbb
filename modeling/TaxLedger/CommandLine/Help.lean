import TaxLedger.CommandLine.Arguments

/-!
# Help

What a person is told who asks for help or for the version, or whose words make no command.
-/

namespace TaxLedger.CommandLine

def programName : String := "cosmos-tax-indexer"

def versionText : String := programName ++ " 0.1.0\n"

def padTo (width : Nat) (text : String) : String :=
  text ++ String.ofList (List.replicate (width - text.length) ' ')

def table (title : String) (rows : List (String × String)) : String :=
  let width := (rows.map (·.1.length)).foldl max 0
  title ++ ":\n" ++
    String.join (rows.map fun (left, right) => "  " ++ padTo width left ++ "  " ++ right ++ "\n")

def ValueOption.usage (o : ValueOption) : String := "--" ++ o.name ++ " <" ++ o.name.toUpper ++ ">"

/-- The column of an option: its letter, if it has one, before its name. -/
def ValueOption.column (o : ValueOption) : String :=
  (match o.short with
    | some letter => String.ofList ['-', letter, ',', ' ']
    | none => "    ") ++ o.usage

namespace Topic

def grammar? : Topic → Option Grammar
  | .program => some programGrammar
  | .index => some indexGrammar
  | .history => some historyGrammar
  | .help => none

def about : Topic → String
  | .program => "Index taxable movements from Cosmos SDK chains"
  | .index => "Index blocks, block events or epochs as configured"
  | .history => "Print an address\x27s taxable history as JSON"
  | .help => "Print this message or the help of the given subcommand(s)"

def words : Topic → String
  | .program => programName
  | .index => programName ++ " index"
  | .history => programName ++ " export"
  | .help => programName ++ " help"

/-- The shape of a command. Options that may be left out stand together. -/
def usage (t : Topic) : String :=
  match t.grammar? with
  | none => t.words ++ " [COMMAND]..."
  | some g =>
    let (required, free) := g.options.partition (·.isRequired)
    " ".intercalate ([t.words] ++ (if free.isEmpty then [] else ["[OPTIONS]"]) ++
      required.map (·.usage) ++ if g.commands.isEmpty then [] else ["<COMMAND>"])

def commandTable : String :=
  table "Commands" [("index", about .index), ("export", about .history), ("help", about .help)]

def optionTable (g : Grammar) : String :=
  table "Options" (g.options.map (fun o => (o.column, o.about)) ++ [("-h, --help", "Print help")] ++
    if g.hasVersion then [("-V, --version", "Print version")] else [])

def text (t : Topic) : String :=
  let parts := match t.grammar? with
    | none => [table "Arguments" [("[COMMAND]...", "Print help for the subcommand(s)")]]
    | some g => (if g.commands.isEmpty then [] else [commandTable]) ++ [optionTable g]
  "\n".intercalate ([t.about ++ "\n", "Usage: " ++ t.usage ++ "\n"] ++ parts)

end Topic

namespace Halt

def quoted (word : String) : String := "\x27" ++ word ++ "\x27"

def problem? : Halt → Option String
  | .help _ | .version | .nothing => none
  | .missingCommand => some (quoted programName ++ " requires a subcommand but one was not provided")
  | .missingOptions names =>
    some ("the following required arguments were not provided: " ++
      ", ".intercalate (names.map ("--" ++ ·)))
  | .unknownArgument word => some ("unexpected argument " ++ quoted word ++ " found")
  | .unknownCommand word => some ("unrecognized subcommand " ++ quoted word)
  | .missingValue name => some ("a value is required for --" ++ name ++ " but none was supplied")
  | .badValue name value => some ("invalid value " ++ quoted value ++ " for --" ++ name)
  | .repeated name => some ("the argument --" ++ name ++ " cannot be used multiple times")
  | .surplusValue name value => some ("unexpected value " ++ quoted value ++ " for " ++ name ++ " found")

def text : Halt → String
  | .help topic => topic.text
  | .version => versionText
  | halt =>
    match halt.problem? with
    | some problem => "error: " ++ problem ++ "\n\nFor more information, try --help.\n"
    | none => Topic.text .program

def isAnswer : Halt → Bool
  | .help _ | .version => true
  | _ => false

def exitCode (h : Halt) : Nat := if h.isAnswer then 0 else 2

end Halt

end TaxLedger.CommandLine
