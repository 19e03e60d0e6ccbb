import TaxLedger.Indexer.Epoch
import TaxLedger.Pipeline.Schedule

/-!
# A run of the indexer

The indexer waits for the node if it is told to, finds out where to start, and sends heights through
the pipeline, or it indexes epochs.
-/

namespace TaxLedger.Indexer

open Session

variable {ν ω : Type}

abbrev Files := String → Except FileError String

namespace Setup

variable (i : Setup ν)

/-- Waits until the node has caught up with its chain; not finished after `turns` turns. -/
def waitForChain : (turns : Nat) → Work (Session ν ω) Failure Unit
  | 0 => Work.unfinished
  | turns + 1 => do
    let status ← i.nodeStatus
    if !status.catchingUp then
      info ("Node is synced at height " ++ toString status.latestHeight)
    else
      info ("Node is catching up at height " ++ toString status.latestHeight ++ ". Waiting " ++
        toString i.config.base.waitDelay ++ "s...")
      if ← i.isStopping then return ()
      else waitForChain turns

def startHeight [Server ω] : Work (Session ν ω) Failure Int := do
  let start := i.config.base.startBlock
  if 0 ≤ start then return start
  else
    match ← i.onChain Store.highestIndexed? with
    | some height =>
      info ("Resuming after highest indexed height " ++ toString height)
      return Pipeline.heightAfter height
    | none => return 1

def plan [Server ω] (files : Files) : Work (Session ν ω) Failure Pipeline.Plan := do
  match i.config.base.blockInputFile with
  | some path =>
    let heights ← Work.ofResult (readHeights path (files path))
    info ("Indexing " ++ toString heights.length ++ " heights from " ++ path)
    return .listed heights
  | none => return .chain (← i.startHeight)

def course : Pipeline.Course where
  capacity := i.config.base.queueSize
  workers := i.config.base.workers
  budget := i.budget
  lastHeight := i.config.base.endBlock
  exitWhenCaughtUp := i.config.base.exitWhenCaughtUp
  isThrottled := i.config.throttleNanos? != some 0

/-- Breaks off unless the pause behind a height can be waited for. -/
def requireThrottle : Except Failure Unit :=
  if i.config.throttleNanos?.isSome then .ok ()
  else .error ⟨[], .crash "the pause between heights is too long to be waited for"⟩

def requireQueue : Except Failure Unit :=
  if Config.isQueueCapacity i.config.base.queueSize then .ok ()
  else .error ⟨[], .crash "the queue of heights cannot be that long"⟩

def surroundings [Server ω] : Pipeline.Surroundings (Session ν ω) where
  isStopAsked s := i.isStopAsked s.node
  tip := ((onNode i.node.status).mapFailure fun e => ⟨[], .node e⟩).map (·.latestHeight)
  failedBefore height := do
    Work.ofResult i.requireThrottle
    if i.config.base.preventReattempts then i.onChain fun chain => Store.hasFailed chain height
    else return false
  index := i.indexAndCount
  recordFailure := i.recordFailed
  announce text := told ⟨.info, text⟩

/-- Sends heights through the pipeline. The failure of the dispatcher counts, those of heights do not. -/
def runHeights [Server ω] (plan : Pipeline.Plan) : Work (Session ν ω) Failure Unit := do
  Work.ofResult i.requireQueue
  let stop ← i.isStopping
  let start := Pipeline.State.initial i.course { stop, wasSent := stop } plan
  let ((), state) ← (Pipeline.run i.course i.config.base.shutdownGrace i.patience
    i.surroundings).beside start
  match state.phase with
  | .ended (.error f) => throw f
  | _ => info "Indexing finished"

def run [Server ω] (files : Files) : Work (Session ν ω) Failure Unit := do
  if i.config.base.waitForChain then i.waitForChain i.patience
  if i.config.base.indexEpochEvents then i.runEpochs
  else i.runHeights (← i.plan files)

end Setup

end TaxLedger.Indexer
