import TaxLedger.CommandLine.Option
import TaxLedger.Store.History

/-!
# Arguments

The words on the command line name the file of the configuration and what is to be done: index, or
write the history of an account.
-/

namespace TaxLedger.CommandLine

inductive Command where
  | index
  /-- Write a history, into a file if one is named. -/
  | history (period : Store.Period) (file : Option String)
  deriving DecidableEq, Repr, Inhabited

structure Arguments where
  /-- The path of the configuration. -/
  config : String
  command : Command
  deriving DecidableEq, Repr, Inhabited

def defaultConfig : String := "config.toml"

def programGrammar : Grammar where
  topic := .program
  options := [{
    name := "config", short := some 'c', kind := .path
    about := "Path to the TOML configuration file [default: " ++ defaultConfig ++ "]" }]
  hasVersion := true
  commands := ["index", "export", "help"]

def indexGrammar : Grammar := { topic := .index }

def historyGrammar : Grammar where
  topic := .history
  options := [
    { name := "address", kind := .text, isRequired := true },
    { name := "start", kind := .time, isRequired := true, about := "Inclusive start, RFC 3339" },
    { name := "end", kind := .time, isRequired := true, about := "Exclusive end, RFC 3339" },
    { name := "output", kind := .path, about := "Write to this file instead of stdout" }]

def readHistory (words : List String) : Except Halt Command := do
  let given ← historyGrammar.readAll words
  match given.value? "address", (given.value? "start").bind Timestamp.parse?,
      (given.value? "end").bind Timestamp.parse? with
  | some account, some first, some limit =>
    return .history ⟨account, first, limit⟩ (given.value? "output")
  | _, _, _ =>
    let required := (historyGrammar.options.filter (·.isRequired)).map (·.name)
    throw (.missingOptions (required.filter fun name => (given.value? name).isNone))

def Topic.ofName? (name : String) : Option Topic :=
  [("index", .index), ("export", .history), ("help", .help)].lookup name

/-- What the words after `help` ask for: no command has commands below it. -/
def readTopic : List String → Halt
  | [] => .help .program
  | [name] => ((Topic.ofName? name).map .help).getD (.unknownCommand name)
  | name :: word :: _ => .unknownCommand (if (Topic.ofName? name).isSome then word else name)

def readCommand (name : String) (words : List String) : Except Halt Command :=
  match name with
  | "index" => (indexGrammar.readAll words).map fun _ => .index
  | "export" => readHistory words
  | _ => .error (readTopic words)

/-- Reads a command line. What is wrong behind the name of a command counts before what is wrong with
the option in front of it. -/
def Arguments.parse (words : List String) : Except Halt Arguments := do
  let (given, rest) ← programGrammar.read {} words
  let command ← rest.mapM fun (name, words) => readCommand name words
  let given ← given.settle
  match command with
  | some command => return ⟨(given.value? "config").getD defaultConfig, command⟩
  | none => throw (if given.settled.isEmpty then .nothing else .missingCommand)

end TaxLedger.CommandLine
