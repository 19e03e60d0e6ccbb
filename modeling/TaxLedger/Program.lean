import TaxLedger.CommandLine.Arguments
import TaxLedger.Indexer.Run
import TaxLedger.Node.Url
import TaxLedger.Store.Denom
import TaxLedger.Store.History
import TaxLedger.Store.Layout

/-!
# The program

A run of the program reads its configuration, prepares the store, learns what denominations there are,
and then indexes or writes a history.
-/

namespace TaxLedger.Program

open CommandLine (Arguments Command)
open Denom (Known Catalog)
open Indexer (Session Setup)
open Indexer.Session (onStore info warn)

def nodeAt {ν : Type} (ask : Request → ν → Reply × ν) (c : Config) : Node ν where
  procedures := NodeUrl.normalize c.node.rpc
  resources := NodeUrl.normalize c.node.api
  ask := ask

/-- What a run finds around it. -/
structure Place (ν : Type) where
  /-- The variables of the environment. -/
  environment : List (String × String)
  files : FileTree
  /-- The client for the node of a configuration. -/
  client : Config → Node ν
  isStopAsked : ν → Bool
  /-- The most turns of a loop. -/
  patience : Nat

/-- A history in print, and the file that it goes to, if one is named. -/
structure Output where
  file : Option String
  text : String
  deriving DecidableEq, Repr, Inhabited

def Output.deliver (o : Output) (files : FileTree) : Except Failure (FileTree × String) :=
  match o.file with
  | none => .ok (files, o.text)
  | some path =>
    match files.writeText o.text (FileTree.pathNames path) with
    | .ok files => .ok (files, "")
    | .error e => .error ((Failure.ofText e.message).within ("Failed to create " ++ path))

def writeHistory {ν ω : Type} [Server ω] (known : Known) (period : Store.Period) :
    Work (Session ν ω) Failure String := do
  let rows ← onStore (Store.history known period)
  info ("Exporting " ++ toString rows.length ++ " rows for " ++ period.account)
  return (Json.ofList Export.Row.toJson rows).renderIndented 0 ++ "\n"

namespace Place

variable {ν ω : Type} (p : Place ν)

def text (path : String) : Except FileError String := p.files.readText (FileTree.pathNames path)

/-- The configuration at a path, whose ending may be left out. -/
def loadConfig (path : String) : Except Failure Config :=
  let text := match p.text path with
    | .ok text => some text
    | .error _ => (p.text (path ++ ".toml")).toOption
  Config.load path text p.environment

def requireStore : Except Failure Unit :=
  if (p.environment.lookup "DATABASE_URL").isSome then .ok ()
  else .error ((Failure.ofText "environment variable not found").within "DATABASE_URL must be set")

def readCatalog (location : String) (blacklist : List String) : Except Failure Catalog :=
  (Catalog.read p.files (FileTree.pathNames location) blacklist).mapError fun e =>
    (Failure.ofText e.message).within ("Failed to read asset list directory " ++ location)

/-- What is known of denominations. The store learns of the asset lists, but not in a dry run. -/
def learnDenoms [Server ω] (c : Config) : Work (Session ν ω) Failure Known := do
  match c.assetList.location with
  | some location =>
    let catalog ← Work.ofResult (p.readCatalog location c.assetList.blacklist)
    if c.base.dry then onStore (Store.loadKnown { catalog })
    else
      let (count, known) ← onStore (Store.syncKnown { catalog })
      info ("Synced " ++ toString count ++ " denominations into the store")
      return known
  | none =>
    warn "No asset list location configured; using stored denominations only"
    onStore (Store.loadKnown {})

def connecting : Backoff := Backoff.ofSeconds (-1) 300

/-- Seeks the node until it answers. Whether it did before a stop was asked for. -/
def connect (c : Config) : Work (Session ν ω) Failure Bool :=
  let knock : Work (Session ν ω) NodeError Bool := do
    if ← Work.look fun s : Session ν ω => p.isStopAsked s.node then return false
    let _ ← Session.onNode (p.client c).status
    return true
  (connecting.run p.patience knock).mapFailure fun e => ⟨["Failed to connect to node"], .node e⟩

def index [Server ω] (c : Config) (known : Known) : Work (Session ν ω) Failure Unit := do
  if ← p.connect c then
    let setup ← Setup.make c (p.client c) p.isStopAsked known p.patience
    setup.run p.text
  else info "Interrupted before the node became reachable"

def run [Server ω] (a : Arguments) : Work (Session ν ω) Failure (Option Output) := do
  let c ← Work.ofResult (p.loadConfig a.config)
  info ("Loaded configuration for " ++ c.chain.name ++ " (" ++ c.chain.id ++ ") from " ++ a.config)
  Work.ofResult p.requireStore
  info "Database connection pool created"
  (onStore Store.prepare).mapFailure (Failure.within "Failed to run database migrations")
  info "Migrations completed"
  let known ← p.learnDenoms c
  match a.command with
  | .history period file => return some ⟨file, ← writeHistory known period⟩
  | .index =>
    p.index c known
    return none

/-- Does what the command line asks for. The files after it, and what is printed. -/
def perform [Server ω] (a : Arguments) : Work (Session ν ω) Failure (FileTree × String) := do
  match ← p.run a with
  | some output => Work.ofResult (output.deliver p.files)
  | none => return (p.files, "")

end Place

/-- What there is to tell at the end; a program that breaks off tells nothing. -/
def lastWords {α : Type} : Except Failure α → List LogLine
  | .ok _ => [⟨.info, "Application has finished and is shutting down."⟩]
  | .error f => if f.isCrash then [] else [⟨.error, "Application error: " ++ f.text⟩]

def exitCode {α : Type} : Except Failure α → Nat
  | .ok _ => 0
  | .error f => if f.isCrash then 101 else 1

end TaxLedger.Program
