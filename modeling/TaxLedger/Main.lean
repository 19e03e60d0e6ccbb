import TaxLedger.CommandLine.Help
import TaxLedger.Program
import TaxLedger.Rehearsal.Node

/-!
# The command line

Hands the words of the command line, the environment and the files that are named to the program, and
prints what it tells. The store is in memory, and the node answers from a file of recorded replies.
-/

namespace TaxLedger.CommandLine

open Rehearsal (ScriptedNode)

def fileText? (path : String) : IO (Option String) := do
  try
    return some (← IO.FS.readFile path)
  catch _ => return none

/-- The variables of the environment, as the system shows them to a process. -/
def readEnvironment : IO (List (String × String)) := do
  let text := (← fileText? "/proc/self/environ").getD ""
  return (text.splitOn "\x00").filterMap fun entry =>
    match entry.splitOn "=" with
    | name :: value@(_ :: _) => some (name, "=".intercalate value)
    | _ => none

def gather (paths : List String) : IO FileTree :=
  paths.foldlM (fun tree path => do
    match ← fileText? path with
    | some text => return FileTree.insert (.file text) (FileTree.pathNames path) tree
    | none => return tree) (.directory [])

/-- The paths that a configuration names: the list of heights, and the asset list of its chain. -/
def namedPaths (c : Config) : List String :=
  c.base.blockInputFile.toList ++
    c.assetList.location.toList.map fun location =>
      location ++ "/" ++ c.chain.name ++ "/" ++ Denom.Catalog.listFile

def repliesVariable : String := "TAX_LEDGER_REPLIES"

/-- The node with the recorded replies; without them it knows nothing. -/
def recordedNode (environment : List (String × String)) : IO ScriptedNode := do
  let text ← match environment.lookup repliesVariable with
    | some path => fileText? path
    | none => return {}
  return ScriptedNode.ofJson ((text.bind Json.parse?).getD .null)

/-- The node's reply to a request. The requests before it are forgotten. -/
def askRecorded (request : Request) (node : ScriptedNode) : Reply × ScriptedNode :=
  ScriptedNode.ask request { node with requests := [] }

def survey (config : String) : IO (Program.Place ScriptedNode) := do
  let environment ← readEnvironment
  let place (files : FileTree) : Program.Place ScriptedNode := {
    environment, files
    client := Program.nodeAt askRecorded
    isStopAsked := (·.stopped)
    patience := 100000 }
  let paths := [config, config ++ ".toml"]
  match (place (← gather paths)).loadConfig config with
  | .ok c => return place (← gather (paths ++ namedPaths c))
  | .error _ => return place (← gather paths)

def reason : IO.Error → String
  | .noFileOrDirectory .. => FileError.missing.message
  | .inappropriateType .. => FileError.isADirectory.message
  | e => toString e

def put (o : Program.Output) : IO (Except Failure Unit) := do
  match o.file with
  | none =>
    IO.print o.text
    return .ok ()
  | some path =>
    try
      IO.FS.writeFile path o.text
      return .ok ()
    catch e => return .error ((Failure.ofText (reason e)).within ("Failed to create " ++ path))

/-- Runs the program and tells what went wrong. The code that it ends with. -/
def launch (a : Arguments) : IO Nat := do
  let place ← survey a.config
  let node ← recordedNode place.environment
  let start : Indexer.Session ScriptedNode Unit := { node, store := some { server := () } }
  match (place.run a).on start with
  | none =>
    IO.println (LogLine.render ⟨.error, "The node has not answered"⟩)
    return 1
  | some (result, session) =>
    let result ← match result with
      | .ok (some output) => put output
      | .ok none => pure (.ok ())
      | .error f => pure (.error f)
    for line in session.log ++ Program.lastWords result do
      if line.level == .error then IO.println line.render
    return Program.exitCode result

end TaxLedger.CommandLine

open TaxLedger CommandLine in
def main (args : List String) : IO UInt32 := do
  match Arguments.parse args with
  | .ok a => return (← launch a).toUInt32
  | .error halt =>
    if halt.isAnswer then IO.print halt.text else IO.eprint halt.text
    return halt.exitCode.toUInt32
