import TaxLedger.Indexer.Block
import TaxLedger.Store.Epoch

/-!
# Indexing epochs

The first block of every epoch is indexed for its events. The current epoch comes from the node, and
the store keeps the epochs that have not been indexed yet.
-/

namespace TaxLedger.Indexer

open Session

variable {ν ω : Type}

structure PendingEpoch where
  /-- The number of its row. -/
  id : Nat
  number : Int
  startHeight : Int
  deriving DecidableEq, Repr, Inhabited

namespace Setup

variable (i : Setup ν)

def epochName : String := i.config.base.epochIdentifier

def inEpochRange (number : Int) : Bool :=
  inWindow number i.config.base.epochStart i.config.base.epochEnd

/-- Indexes the first block of an epoch. A dry run stores nothing. -/
def indexEpoch [Server ω] (handlers : BlockEvent.Handlers) (e : PendingEpoch) :
    Work (Session ν ω) Failure Unit := do
  let height := e.startHeight
  let place := "epoch " ++ toString e.number ++ " at "
  let (header, results) ← (do
    let header ← (onNode (i.node.blockHeader height)).outcome
    let results ← (onNode (i.node.blockResults height)).outcome
    return (← Work.ofResult header, ← Work.ofResult results) :
      Work (Session ν ω) NodeError (BlockHeader × BlockEvent.Results)).mapFailure fun e =>
    ⟨["Failed to fetch epoch block " ++ toString height], .node e⟩
  let records ← Work.ofResult (decodeDuring
    ("Failed to process epoch events at " ++ toString results.height) (handlers.process results))
  if i.config.base.dry then
    info ("Dry run: " ++ place ++ toString height ++ " has " ++ toString records.length ++
      " reward records")
  else
    let isAbandoned ← Work.look fun s : Session ν ω => s.isAbandoned
    let count ← onStore (Store.transaction do
      let count ← i.storeEvents height header.time records
      Store.markEpoch e.id
      Work.ofResult (refuseAbandoned isAbandoned height)
      return count)
    info ("Indexed " ++ place ++ "height " ++ toString height ++ ": " ++ toString count ++ " rows")

def tellLatest [Server ω] : Work (Session ν ω) Failure Unit := do
  match ← i.onChain fun chain => Store.latestEpoch? chain i.epochName with
  | some e =>
    info ("Latest recorded " ++ i.epochName ++ " epoch is " ++ toString e.row.number ++
      " at height " ++ toString e.row.startHeight)
  | none => info ("No " ++ i.epochName ++ " epochs recorded yet")

def currentEpoch : Work (Session ν ω) Failure EpochInfo := do
  let epochs ← i.persistently "Failed to query epochs" i.node.epochs
  match epochs.find? (·.identifier == i.epochName) with
  | some e => return e
  | none => throw (.ofText ("Node reports no " ++ i.epochName ++ " epoch"))

/-- The epochs to index when the chain is in `current`. In a dry run that is the only one that can be
known. -/
def pending [Server ω] (current : EpochInfo) : Work (Session ν ω) Failure (List PendingEpoch) :=
  if i.config.base.dry then
    return if i.inEpochRange current.number then [⟨0, current.number, current.startHeight⟩] else []
  else
    i.onChain fun chain => do
      Store.recordEpoch chain i.epochName current.number current.startHeight
      let rows ← Store.pendingEpochs chain i.epochName i.config.base.epochStart
        i.config.base.epochEnd
      return rows.map fun r => ⟨r.id, r.row.number, r.row.startHeight⟩

/-- Indexes epochs one after the other. Whether a stop was asked for in between. -/
def indexEpochs [Server ω] (handlers : BlockEvent.Handlers) :
    List PendingEpoch → Work (Session ν ω) Failure Bool
  | [] => return false
  | e :: rest => do
    if ← i.isStopping then return true
    match ← (i.budget.run i.patience (i.indexEpoch handlers e)).outcome with
    | .ok () => pure ()
    | .error f =>
      error ("Failed to index " ++ i.epochName ++ " epoch " ++ toString e.number ++ " [" ++
        f.category.word ++ "]: " ++ f.text)
    indexEpochs handlers rest

/-- Indexes what there is, and goes on when there is more; not finished after `turns` turns. -/
def followEpochs [Server ω] (handlers : BlockEvent.Handlers) :
    (turns : Nat) → Work (Session ν ω) Failure Unit
  | 0 => Work.unfinished
  | turns + 1 => do
    let current ← i.currentEpoch
    if ← i.indexEpochs handlers (← i.pending current) then return ()
    let last := i.config.base.epochEnd
    if 0 ≤ last && last ≤ current.number then info ("Reached end epoch " ++ toString last)
    else if i.config.base.exitWhenCaughtUp then
      info ("Caught up with " ++ i.epochName ++ " epoch " ++ toString current.number)
    else if ← i.isStopping then return ()
    else followEpochs handlers turns

def runEpochs [Server ω] : Work (Session ν ω) Failure Unit := do
  match BlockEvent.Handlers.forEpoch? i.config.chain.id i.epochName with
  | none =>
    throw ⟨[], .config ("no epoch handlers for " ++ i.epochName ++ " epochs on " ++
      i.config.chain.id)⟩
  | some handlers =>
    i.tellLatest
    i.followEpochs handlers i.patience

end Setup

end TaxLedger.Indexer
