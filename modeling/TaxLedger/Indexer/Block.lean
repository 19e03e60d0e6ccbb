import TaxLedger.Block.Record
import TaxLedger.Indexer.Heights
import TaxLedger.Indexer.Session
import TaxLedger.Store.Block

/-!
# Indexing a height

A height is fetched, read and stored as a whole. When it cannot be, it is put on record as failed.
-/

namespace TaxLedger.Indexer

open Session

variable {ν ω : Type}

def decodeDuring {α : Type} (text : String) (result : Except DecodeError α) : Except Failure α :=
  result.mapError fun e => ⟨[text], .decode e⟩

/-- A second question, if it is to be asked at all. -/
def askIf {α ε σ : Type} (wanted : Bool) (w : Work σ ε α) : Work σ ε (Option α) :=
  if wanted then w.map some else return none

structure Fetched where
  header : BlockHeader
  txs : Option (List Transaction)
  results : Option BlockEvent.Results

namespace Setup

variable (i : Setup ν)

def wantsEvents (height : Int) : Bool :=
  i.config.base.indexBlockEvents && !i.handlers.isEmpty &&
    inWindow height i.config.base.blockEventsStart i.config.base.blockEventsEnd

/-- Asks for all parts of a height at once. If several are refused, the first of them counts. -/
def fetch (height : Int) : Work (Session ν ω) Failure Fetched :=
  (do
    let header ← (onNode (i.node.blockHeader height)).outcome
    let txs ← (askIf i.config.base.indexChain (onNode (i.node.txsAtHeight height))).outcome
    let results ← (askIf (i.wantsEvents height) (onNode (i.node.blockResults height))).outcome
    return ⟨← Work.ofResult header, ← Work.ofResult txs, ← Work.ofResult results⟩ :
      Work (Session ν ω) NodeError Fetched).mapFailure fun e =>
    ⟨["Failed to fetch block " ++ toString height], .node e⟩

def readTxs (height : Int) (f : Fetched) : Work (Session ν ω) Failure (Option Block.Record) := do
  match f.txs with
  | none => return none
  | some txs =>
    let (record, notices) := Block.read i.messages i.config.chain.accountPrefix f.header txs
    for (hash, notes) in notices do
      for note in notes do
        warn (note.text height hash)
    return some (← Work.ofResult record)

def readEvents (height : Int) (f : Fetched) : Except Failure (Option (List BlockEvent.Record)) :=
  match f.results with
  | none => .ok none
  | some results =>
    (decodeDuring ("Failed to process block events for " ++ toString height)
      (i.handlers.process results)).map some

def storeEvents [Server ω] (height : Int) (time : Timestamp) (events : List BlockEvent.Record) :
    Work (Store ω) Failure Nat :=
  Store.storeBlockEvents i.known i.chain height time events
    i.config.base.reindex

/-- Stores all that is known of a height, unless the height is given up meanwhile. -/
def storeAll [Server ω] (height : Int) (time : Timestamp) (record : Option Block.Record)
    (events : Option (List BlockEvent.Record)) (isAbandoned : Bool) :
    Work (Store ω) Failure (Option Store.BlockOutcome × Nat) :=
  Store.transaction do
    let stored ← record.mapM fun record =>
      Store.storeBlock i.known i.chain record i.config.base.reindex
    let count ← match events with
      | some events => i.storeEvents height time events
      | none => pure 0
    Work.ofResult (refuseAbandoned isAbandoned height)
    return (stored, count)

def storedNews (height : Int) : Option Store.BlockOutcome × Nat → String
  | (some .alreadyIndexed, _) => "Block " ++ toString height ++ " already indexed, skipped"
  | (some (.stored txs movements), events) =>
    "Indexed block " ++ toString height ++ ": " ++ toString txs ++ " txs, " ++ toString movements ++
      " taxable movements, " ++ toString events ++ " block events"
  | (none, events) =>
    "Indexed block events for " ++ toString height ++ ": " ++ toString events ++ " rows"

/-- Indexes a height. A dry run stores nothing. -/
def indexHeight [Server ω] (height : Int) : Work (Session ν ω) Failure Unit := do
  let f ← i.fetch height
  let record ← i.readTxs height f
  let events ← Work.ofResult (i.readEvents height f)
  if i.config.base.dry then
    let count {α : Type} (items : Option (List α)) := toString ((items.map (·.length)).getD 0)
    info ("Dry run: decoded block " ++ toString height ++ " (" ++ count f.txs ++ " txs, " ++
      count events ++ " block events)")
  else
    let isAbandoned ← Work.look fun s : Session ν ω => s.isAbandoned
    let outcome ← (onStore (i.storeAll height f.header.time record events isAbandoned)).mapFailure
      (Failure.within ("Failed to store block " ++ toString height))
    info (storedNews height outcome)

/-- Counts a height that was indexed, and tells now and then how many there are. -/
def count {ε : Type} : Work (Session ν ω) ε Unit := do
  Work.change fun s => { s with indexed := s.indexed + 1 }
  let indexed ← Work.look fun s : Session ν ω => s.indexed
  let every := i.config.base.blockTimer
  if 0 < every && indexed % every = 0 then info ("Indexed " ++ toString indexed ++ " blocks")

def indexAndCount [Server ω] (height : Int) : Work (Session ν ω) Failure Unit := do
  i.indexHeight height
  i.count

def onChain {α : Type} [Server ω] (w : Nat → Work (Store ω) Failure α) :
    Work (Session ν ω) Failure α :=
  onStore do w (← Store.getChain i.chain)

def recordFailed [Server ω] (height : Int) (failure : Failure) :
    Work (Session ν ω) Failure Unit := do
  error ("Failed to index block " ++ toString height ++ " [" ++ failure.category.word ++ "]: " ++
    failure.text)
  if failure.isNotFound then
    warn ("Block " ++ toString height ++
      " is not available on the node; it may have been pruned")
  if !i.config.base.dry then
    match ← (i.onChain fun chain => Store.recordFailed chain height).outcome with
    | .ok () => return ()
    | .error f => error ("Failed to record failed block " ++ toString height ++ ": " ++ f.text)

end Setup

end TaxLedger.Indexer
