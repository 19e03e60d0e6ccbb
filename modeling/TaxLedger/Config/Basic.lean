import TaxLedger.Config.Environment
import TaxLedger.Config.Path
import TaxLedger.Config.Toml
import TaxLedger.Contract.Registry
import TaxLedger.Failure
import TaxLedger.Power

/-!
# Configuration

What is indexed, from which node and how: read from a document, with overrides from the environment,
and checked for what makes no sense.
-/

namespace TaxLedger.Config

structure ChainSettings where
  id : String
  name : String
  accountPrefix : String
  deriving DecidableEq, Repr, Inhabited

structure NodeSettings where
  rpc : String
  api : String
  /-- The time that a request may take in seconds. -/
  timeout : Nat := 30
  deriving DecidableEq, Repr, Inhabited

/-- What is indexed and how. A negative end of a range stands for no end. -/
structure BaseSettings where
  /-- The first height; a negative one stands for the one behind the highest that is stored. -/
  startBlock : Int := -1
  endBlock : Int := -1
  workers : Nat := 1
  queueSize : Nat := 100
  retryAttempts : Int := 0
  retryMaxWait : Int := 30
  waitForChain : Bool := false
  /-- Seconds between two looks at a node that has nothing new. -/
  waitDelay : Nat := 10
  exitWhenCaughtUp : Bool := true
  indexChain : Bool := true
  indexBlockEvents : Bool := false
  indexEpochEvents : Bool := false
  blockEventsStart : Int := 0
  blockEventsEnd : Int := -1
  epochIdentifier : String := ""
  epochStart : Int := 0
  epochEnd : Int := -1
  dry : Bool := false
  reindex : Bool := false
  preventReattempts : Bool := false
  blockInputFile : Option String := none
  /-- Seconds between two heights. -/
  throttling : Binary64 := Binary64.zero false
  blockTimer : Nat := 10000
  /-- Seconds that workers have to finish after a stop is asked for. -/
  shutdownGrace : Nat := 30
  deriving DecidableEq, Repr, Inhabited

structure AssetListSettings where
  location : Option String := none
  blacklist : List String := []
  deriving DecidableEq, Repr, Inhabited

end Config

structure Config where
  chain : Config.ChainSettings
  node : Config.NodeSettings
  base : Config.BaseSettings := {}
  assetList : Config.AssetListSettings := {}
  /-- Handlers of contracts under code identifiers. -/
  codeIds : Assoc String := []
  deriving DecidableEq, Repr, Inhabited

namespace Config

/-! ### Reading -/

namespace ChainSettings

def ofSetting? (v : Setting) : Option ChainSettings :=
  match v.fields? ["id", "name", "account-prefix"] with
  | some [id, name, accountPrefix] => do
    let id ← required Setting.asText? id
    let name ← required Setting.asText? name
    let accountPrefix ← required Setting.asText? accountPrefix
    return ⟨id, name, accountPrefix⟩
  | _ => none

end ChainSettings

namespace NodeSettings

def ofSetting? (v : Setting) : Option NodeSettings :=
  match v.fields? ["rpc", "api", "timeout"] with
  | some [rpc, api, timeout] => do
    let rpc ← required Setting.asText? rpc
    let api ← required Setting.asText? api
    let timeout ← withDefault 30 Setting.asNat? timeout
    return ⟨rpc, api, timeout⟩
  | _ => none

end NodeSettings

namespace BaseSettings

def names : List String := [
  "start-block", "end-block", "rpc-workers", "queue-size", "rpc-retry-attempts",
  "rpc-retry-max-wait", "wait-for-chain", "wait-for-chain-delay", "exit-when-caught-up",
  "index-chain", "index-block-events", "index-epoch-events", "block-events-start-block",
  "block-events-end-block", "epoch-indexing-identifier", "epoch-events-start-epoch",
  "epoch-events-end-epoch", "dry", "reindex", "prevent-reattempts", "block-input-file",
  "throttling", "block-timer", "shutdown-grace"]

def ofSetting? (v : Setting) : Option BaseSettings :=
  match v.fields? names with
  | some [startBlock, endBlock, workers, queueSize, retryAttempts, retryMaxWait, waitForChain,
      waitDelay, exitWhenCaughtUp, indexChain, indexBlockEvents, indexEpochEvents,
      blockEventsStart, blockEventsEnd, epochIdentifier, epochStart, epochEnd, dry, reindex,
      preventReattempts, blockInputFile, throttling, blockTimer, shutdownGrace] => do
    let base : BaseSettings := {}
    let int (fallback : Int) := withDefault fallback Setting.asInt?
    let nat (fallback : Nat) := withDefault fallback Setting.asNat?
    let bool (fallback : Bool) := withDefault fallback Setting.asBool?
    return {
      startBlock := ← int base.startBlock startBlock
      endBlock := ← int base.endBlock endBlock
      workers := ← nat base.workers workers
      queueSize := ← nat base.queueSize queueSize
      retryAttempts := ← int base.retryAttempts retryAttempts
      retryMaxWait := ← int base.retryMaxWait retryMaxWait
      waitForChain := ← bool base.waitForChain waitForChain
      waitDelay := ← nat base.waitDelay waitDelay
      exitWhenCaughtUp := ← bool base.exitWhenCaughtUp exitWhenCaughtUp
      indexChain := ← bool base.indexChain indexChain
      indexBlockEvents := ← bool base.indexBlockEvents indexBlockEvents
      indexEpochEvents := ← bool base.indexEpochEvents indexEpochEvents
      blockEventsStart := ← int base.blockEventsStart blockEventsStart
      blockEventsEnd := ← int base.blockEventsEnd blockEventsEnd
      epochIdentifier := ← withDefault base.epochIdentifier Setting.asText? epochIdentifier
      epochStart := ← int base.epochStart epochStart
      epochEnd := ← int base.epochEnd epochEnd
      dry := ← bool base.dry dry
      reindex := ← bool base.reindex reindex
      preventReattempts := ← bool base.preventReattempts preventReattempts
      blockInputFile := ← optionalText blockInputFile
      throttling := ← withDefault base.throttling Setting.asFloat? throttling
      blockTimer := ← nat base.blockTimer blockTimer
      shutdownGrace := ← nat base.shutdownGrace shutdownGrace }
  | _ => none

end BaseSettings

namespace AssetListSettings

def ofSetting? (v : Setting) : Option AssetListSettings :=
  match v.fields? ["location", "blacklist"] with
  | some [location, blacklist] => do
    let location ← optionalText location
    let blacklist ← withDefault [] Setting.asTexts? blacklist
    return ⟨location, blacklist⟩
  | _ => none

end AssetListSettings

def codeIdsOfSetting? (v : Setting) : Option (Assoc String) :=
  match v.fields? ["code-ids"] with
  | some [codeIds] => withDefault [] Setting.asTextTable? codeIds
  | _ => none

def ofSetting? (v : Setting) : Option Config :=
  match v.fields? ["chain", "node", "base", "assetlist", "contracts"] with
  | some [chain, node, base, assetList, contracts] => do
    let chain ← required ChainSettings.ofSetting? chain
    let node ← required NodeSettings.ofSetting? node
    let base ← withDefault {} BaseSettings.ofSetting? base
    let assetList ← withDefault {} AssetListSettings.ofSetting? assetList
    let codeIds ← withDefault [] codeIdsOfSetting? contracts
    return ⟨chain, node, base, assetList, codeIds⟩
  | _ => none

/-! ### Checks -/

def checkCodeIds : Assoc String → Except String Unit
  | [] => .ok ()
  | (codeId, handler) :: rest =>
    if (Text.nat64? codeId).isNone then
      .error ("contracts.code-ids key " ++ codeId ++ " is not a code id")
    else if (Contract.knownHandler? handler).isNone then
      .error ("unknown contract handler " ++ handler ++ " for code id " ++ codeId)
    else checkCodeIds rest

/-- Refuses settings that the indexer cannot run with, with a reason. -/
def validate (c : Config) : Except String Unit :=
  let base := c.base
  if c.chain.id = "" then .error "chain.id must be set"
  else if c.chain.accountPrefix = "" then .error "chain.account-prefix must be set"
  else if c.node.rpc = "" || c.node.api = "" then .error "node.rpc and node.api must be set"
  else if base.workers = 0 then .error "base.rpc-workers must be at least 1"
  else if base.queueSize = 0 then .error "base.queue-size must be at least 1"
  else if 0 ≤ base.endBlock && base.endBlock < base.startBlock then
    .error ("base.start-block " ++ toString base.startBlock ++ " is after base.end-block " ++
      toString base.endBlock)
  else if !base.indexChain && !base.indexBlockEvents && !base.indexEpochEvents then
    .error ("nothing to index: enable base.index-chain, base.index-block-events or " ++
      "base.index-epoch-events")
  else if base.indexEpochEvents && base.epochIdentifier = "" then
    .error "base.epoch-indexing-identifier is required for epoch indexing"
  else if base.indexEpochEvents && (base.indexChain || base.indexBlockEvents) then
    .error ("epoch indexing runs on its own; disable base.index-chain and " ++
      "base.index-block-events")
  else if !base.throttling.isFinite || (base.throttling.isNegative && !base.throttling.isZero) then
    .error "base.throttling must be a non-negative number"
  else checkCodeIds c.codeIds

/-! ### Loading -/

/-- The table of all settings of a document; a name at its top may be a path. -/
def settingsOf (entries : List (String × Setting)) : Setting :=
  entries.foldl
    (fun root (name, v) => Setting.write v ((Path.parse? name).getD [.name name]) root)
    (.table [])

def overridePaths (env : List (String × String)) : Except Failure (List (Path × String)) :=
  (overrides env).mapM fun (key, value) =>
    match Path.parse? key with
    | some path => .ok (path, value)
    | none => .error ((Failure.ofText "invalid path").within ("Invalid override for " ++ key))

/-- The configuration in a document at a path, with overrides from the environment. The text is
missing where there is no such file. Overrides are made in the order of their paths. That is only one of
the orders that are possible where the path of one leads into that of another: such overrides may be made
either way round, and the last one counts. -/
def load (path : String) (text : Option String) (env : List (String × String)) :
    Except Failure Config := do
  let changes ← overridePaths env
  let unreadable (reason : String) : Except Failure (List (String × Setting)) :=
    .error ((Failure.ofText reason).within ("Failed to read configuration from " ++ path))
  let entries ← match text with
    | none => unreadable ("configuration file \"" ++ path ++ "\" not found")
    | some text =>
      match Toml.parse? text with
      | some entries => .ok entries
      | none => unreadable "not a TOML document"
  let settings := changes.foldl (fun root (path, value) => Setting.write (.text value) path root)
    (settingsOf entries)
  match ofSetting? settings with
  | none => .error ((Failure.ofText "unexpected value").within "Failed to parse configuration")
  | some config =>
    match config.validate with
    | .ok () => .ok config
    | .error reason => .error ⟨[], .config reason⟩

/-! ### Derived values -/

/-- Handlers under the numbers of code identifiers, in the order of the identifiers' texts. -/
def contractCodeIds (c : Config) : List (Nat × String) :=
  c.codeIds.filterMap fun (codeId, handler) => (Text.nat64? codeId).map fun n => (n, handler)

/-- The nanoseconds of a time in seconds; `none` where it is too long to be waited for. -/
def nanosOfSeconds? (x : Binary64) : Option Nat :=
  let nanos := Binary64.roundHalfEven (x.ratio.1 * 1000000000) x.ratio.2
  if x.isFinite && nanos < (nat64Max + 1) * 1000000000 then some nanos else none

def throttleNanos? (c : Config) : Option Nat := nanosOfSeconds? c.base.throttling

/-- The nanoseconds of whole seconds; `none` where they do not fit in 64 bits. -/
def nanosOfWholeSeconds? (seconds : Nat) : Option Nat :=
  if seconds ≤ nat64Max then some (seconds * 1000000000) else none

def requestNanos? (c : Config) : Option Nat := nanosOfWholeSeconds? c.node.timeout

def graceNanos? (c : Config) : Option Nat := nanosOfWholeSeconds? c.base.shutdownGrace

def isQueueCapacity (n : Nat) : Bool := 0 < n && n ≤ nat64Max / 8

end Config

end TaxLedger
