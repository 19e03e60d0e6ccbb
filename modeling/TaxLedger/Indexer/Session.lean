import TaxLedger.BlockEvent.Chain
import TaxLedger.Config.Basic
import TaxLedger.Indexer.Contracts
import TaxLedger.Message.Registry
import TaxLedger.Node.Query
import TaxLedger.Store.Block

/-!
# Sessions

A session of the indexer talks to a node, works on a store and keeps a log. What does not change during
a session is its setup.
-/

namespace TaxLedger.Indexer

open Denom (Known)

structure Session (ν ω : Type) where
  node : ν
  /-- The store; `none` where no connection can be had. -/
  store : Option (Store ω) := none
  log : List LogLine := []
  /-- How many blocks have been indexed. -/
  indexed : Nat := 0
  /-- Whether the heights in work are given up. -/
  isAbandoned : Bool := false

structure Setup (ν : Type) where
  config : Config
  node : Node ν
  /-- Whether a stop has been asked for. -/
  isStopAsked : ν → Bool
  known : Known
  messages : Message.Registry
  handlers : BlockEvent.Handlers
  /-- The most turns of a loop. -/
  patience : Nat

namespace Session

variable {ν ω ε α : Type}

def told (line : LogLine) (s : Session ν ω) : Session ν ω := { s with log := s.log ++ [line] }

def tell (level : LogLevel) (text : String) : Work (Session ν ω) ε Unit :=
  Work.change (told ⟨level, text⟩)

def info (text : String) : Work (Session ν ω) ε Unit := tell .info text

def warn (text : String) : Work (Session ν ω) ε Unit := tell .warn text

def error (text : String) : Work (Session ν ω) ε Unit := tell .error text

def onNode (w : Work ν ε α) : Work (Session ν ω) ε α :=
  ExceptT.mk fun s => (w.on s.node).map fun (result, node) => (result, { s with node })

def noConnection : Failure :=
  ⟨["Failed to get database connection"], .store (.unavailable "timed out waiting for connection")⟩

def onStore (w : Work (Store ω) Failure α) : Work (Session ν ω) Failure α :=
  ExceptT.mk fun s =>
    match s.store with
    | none => some (.error noConnection, s)
    | some store => (w.on store).map fun (result, store) => (result, { s with store := some store })

end Session

namespace Setup

variable {ν ω α : Type} (i : Setup ν)

def budget : Backoff :=
  Backoff.ofSeconds i.config.base.retryAttempts i.config.base.retryMaxWait

def chain : Store.ChainIdentity := ⟨i.config.chain.id, i.config.chain.name⟩

/-- Asks the node within the budget; `text` tells what for. -/
def persistently (text : String) (w : Work ν NodeError α) : Work (Session ν ω) Failure α :=
  (i.budget.run i.patience (Session.onNode w)).mapFailure fun e => ⟨[text], .node e⟩

def nodeStatus : Work (Session ν ω) Failure NodeStatus :=
  i.persistently "Failed to get node status" i.node.status

def isStopping {ε : Type} : Work (Session ν ω) ε Bool :=
  Work.look fun s : Session ν ω => i.isStopAsked s.node

end Setup

/-- How contracts are listed at the start: by the node, within the budget of the configuration. -/
def contractListing {ν ω : Type} (config : Config) (node : Node ν) (patience : Nat) :
    Listing (Session ν ω) where
  budget := Backoff.ofSeconds config.base.retryAttempts config.base.retryMaxWait
  patience := patience
  list code := Session.onNode (node.contracts patience code)
  tell := Session.told

/-- The setup for a configuration: contracts are listed, and the handlers of the chain are looked up. -/
def Setup.make {ν ω : Type} (config : Config) (node : Node ν) (isStopAsked : ν → Bool)
    (known : Known) (patience : Nat) : Work (Session ν ω) Failure (Setup ν) := do
  let contracts ← buildContracts config (contractListing config node patience)
  let handlers := BlockEvent.Handlers.forChain config.chain.id
  if config.base.indexBlockEvents && handlers.isEmpty then
    Session.warn ("Block event indexing is enabled but chain " ++ config.chain.id ++
      " has no block event handlers")
  let messages := Message.Registry.standard contracts
  return ⟨config, node, isStopAsked, known, messages, handlers, patience⟩

end TaxLedger.Indexer
