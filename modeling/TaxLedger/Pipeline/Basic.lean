import TaxLedger.Failure
import TaxLedger.Pipeline.Channel
import TaxLedger.Power
import TaxLedger.Retry

/-!
# The pipeline

A dispatcher hands heights to a queue, and workers take them out and index them. `step` tells what each
move makes of the pipeline, so that every order of moves is a run of it. Nobody else can act within a
move: to look at the signal and to take a height are two moves of a worker, and every try to learn how
far the chain has come is a move of the dispatcher.
-/

namespace TaxLedger.Pipeline

structure Course where
  capacity : Nat
  workers : Nat
  /-- How often a worker tries a height, and the dispatcher to learn how far the chain has come. -/
  budget : Backoff
  /-- The last height of the chain to index; a negative one stands for no end. -/
  lastHeight : Int
  exitWhenCaughtUp : Bool
  /-- Whether there is a pause behind every height. -/
  isThrottled : Bool
  deriving DecidableEq, Repr, Inhabited

/-- The heights that are still to be handed over. -/
inductive Plan where
  | listed (rest : List Int)
  /-- The heights from `next` on, as far as the chain has come; that has to be asked for. -/
  | chain (next : Int)
  /-- The heights from `next` to `target`, when the chain has come to `tip`. -/
  | stretch (next target tip : Int)
  deriving DecidableEq, Repr

inductive Phase where
  /-- It turns to the next height. -/
  | planning (plan : Plan)
  /-- It asks how far the chain has come, for the heights from `next` on, and has failed `tries` times.
  It sees nothing of the signal meanwhile. -/
  | polling (next : Int) (tries : Nat)
  /-- It looks up whether the height has failed before. -/
  | checking (height : Int) (rest : Plan)
  /-- It waits for a place in the queue. -/
  | offering (height : Int) (rest : Plan)
  /-- It is about to pause. -/
  | settling (rest : Plan)
  | pausing (rest : Plan)
  | ended (result : Except Failure Unit)

/-- What a worker is at. The lock of the queue is held by one that is waiting or ready. -/
inductive Worker where
  | idle
  /-- It waits for a height or a stop, and has yet to look at the signal. -/
  | waiting
  /-- It has seen that no stop is asked for, and looks into the queue next. -/
  | ready
  /-- It indexes a height and has tried so many times before. -/
  | indexing (height : Int) (tries : Nat)
  /-- It records that the height has failed. -/
  | recording (height : Int) (failure : Failure)
  | gone
  deriving DecidableEq, Repr

inductive Ending where
  | indexed
  | failed
  | aborted
  deriving DecidableEq, Repr, Inhabited

inductive Closing where
  | notYet
  /-- The workers have as much time as they need. -/
  | patient
  /-- The workers have a time of grace. -/
  | limited
  /-- The time of grace is over. -/
  | expired
  deriving DecidableEq, Repr, Inhabited

structure State where
  signal : Signal
  phase : Phase
  queue : HeightQueue
  workers : List Worker
  closing : Closing := .notYet
  /-- The heights handed to the queue so far. -/
  handed : List Int := []
  /-- The heights that have ended, in order. -/
  finished : List (Int × Ending) := []

inductive Move where
  /-- A value is sent to the signal. -/
  | send (stop : Bool)
  /-- Nobody can send any more. -/
  | lose
  /-- The dispatcher turns to its next height. -/
  | plan
  /-- The dispatcher has tried to learn how far the chain has come. -/
  | learn (tip : Except Failure Int)
  /-- The dispatcher learns whether the height has failed before. -/
  | look (failedBefore : Except Failure Bool)
  /-- The dispatcher puts its height into the queue. -/
  | hand
  /-- The dispatcher gives its height up. -/
  | withdraw
  /-- The dispatcher begins its pause. -/
  | pause
  | wake (waking : Waking)
  /-- The dispatcher has ended, and the queue gets no more heights. -/
  | close
  /-- The time of grace ends. -/
  | expire
  /-- A worker gets the lock of the queue. -/
  | lock (worker : Nat)
  /-- A worker that waits looks at the signal. It may do so at any time, also when nothing is new. -/
  | check (worker : Nat)
  /-- A worker looks into the queue and takes the height in front. -/
  | take (worker : Nat)
  /-- A worker has tried its height. -/
  | attempt (worker : Nat) (result : Except Failure Unit)
  /-- A worker has recorded a failed height. -/
  | record (worker : Nat)
  /-- A worker is cut off, where it can be. -/
  | abort (worker : Nat)

def State.initial (c : Course) (signal : Signal) (plan : Plan) : State where
  signal := signal
  phase := .planning plan
  queue := { capacity := c.capacity }
  workers := List.replicate c.workers .idle

/-- The height up to which the chain is indexed when it has come to `tip`. -/
def Course.target (c : Course) (tip : Int) : Int :=
  if c.lastHeight < 0 then tip else min tip c.lastHeight

def Course.isOver (c : Course) (next : Int) : Bool := 0 ≤ c.lastHeight && c.lastHeight < next

/-- The height behind a height. Heights have 64 bits, and behind the greatest comes the least. -/
def heightAfter (height : Int) : Int := if height = int64Max then int64Min else height + 1

/-- What the dispatcher is at when it has turned to its next height. -/
def Plan.next (c : Course) (stop : Bool) : Plan → Phase
  | .listed [] => .ended (.ok ())
  | .listed (height :: rest) => if stop then .ended (.ok ()) else .checking height (.listed rest)
  | .chain next => .polling next 0
  | .stretch next target tip =>
    if next ≤ target then
      if stop then .ended (.ok ()) else .checking next (.stretch (heightAfter next) target tip)
    else if c.isOver next || c.exitWhenCaughtUp then .ended (.ok ())
    else .settling (.chain next)

def Worker.hasLock : Worker → Bool
  | .waiting | .ready => true
  | _ => false

namespace State

def isLocked (s : State) : Bool := s.workers.any Worker.hasLock

def withWorker (s : State) (i : Nat) (w : Worker) : State :=
  { s with workers := s.workers.set i w }

def finish (s : State) (i : Nat) (height : Int) (ending : Ending) (w : Worker) : State :=
  { s.withWorker i w with finished := s.finished ++ [(height, ending)] }

end State

/-- What the move makes of the dispatcher; `none` where the dispatcher cannot make it. -/
def dispatch (c : Course) (s : State) : Move → Option State
  | .plan =>
    match s.phase with
    | .planning plan => some { s with phase := plan.next c s.signal.stop }
    | _ => none
  | .learn tip =>
    match s.phase, tip with
    | .polling next _, .ok tip =>
      some { s with phase := .planning (.stretch next (c.target tip) tip) }
    | .polling next tries, .error failure =>
      some { s with
        phase := if c.budget.allows tries then .polling next (tries + 1)
          else .ended (.error (failure.within "Failed to get node status")) }
    | _, _ => none
  | .look failedBefore =>
    match s.phase, failedBefore with
    | .checking _ rest, .ok true => some { s with phase := .planning rest }
    | .checking height rest, .ok false => some { s with phase := .offering height rest }
    | .checking _ _, .error failure => some { s with phase := .ended (.error failure) }
    | _, _ => none
  | .hand =>
    match s.phase with
    | .offering height rest =>
      if s.queue.hasRoom then
        some { s with
          queue := s.queue.push height
          handed := s.handed ++ [height]
          phase := if c.isThrottled then .settling rest else .planning rest }
      else none
    | _ => none
  | .withdraw =>
    match s.phase with
    | .offering _ _ =>
      if s.signal.stop || !s.queue.isServed then some { s with phase := .ended (.ok ()) } else none
    | _ => none
  | .pause =>
    match s.phase with
    | .settling rest =>
      some { s with phase := if s.signal.stop then .ended (.ok ()) else .pausing rest }
    | _ => none
  | .wake waking =>
    match s.phase with
    | .pausing rest =>
      if s.signal.canWake waking then
        some { s with
          phase := if s.signal.endsAll waking then .ended (.ok ()) else .planning rest }
      else none
    | _ => none
  | .close =>
    match s.phase, s.closing with
    | .ended _, .notYet =>
      some { s with
        queue := s.queue.close
        closing := if s.signal.stop then .limited else .patient }
    | _, _ => none
  | _ => none

def work (c : Course) (s : State) : Move → Option State
  | .lock i =>
    match s.workers[i]? with
    | some .idle => if s.isLocked then none else some (s.withWorker i .waiting)
    | _ => none
  | .check i =>
    match s.workers[i]? with
    | some .waiting => some (s.withWorker i (if s.signal.stop then .gone else .ready))
    | _ => none
  | .take i =>
    match s.workers[i]?, s.queue.pop? with
    | some .ready, some (height, queue) =>
      some ({ s with queue }.withWorker i (.indexing height 0))
    | some .ready, none =>
      some (s.withWorker i (if s.queue.isExhausted then .gone else .waiting))
    | _, _ => none
  | .attempt i result =>
    match s.workers[i]?, result with
    | some (.indexing height _), .ok () => some (s.finish i height .indexed .idle)
    | some (.indexing height tries), .error failure =>
      some (s.withWorker i (if c.budget.allows tries then .indexing height (tries + 1)
        else .recording height failure))
    | _, _ => none
  | .record i =>
    match s.workers[i]? with
    | some (.recording height _) => some (s.finish i height .failed .idle)
    | _ => none
  | .abort i =>
    match s.closing, s.workers[i]? with
    | .expired, some (.indexing height _) => some (s.finish i height .aborted .gone)
    | .expired, some (.recording height _) => some (s.finish i height .aborted .gone)
    | .expired, some .idle => some (s.withWorker i .gone)
    | .expired, some .waiting => some (s.withWorker i .gone)
    | _, _ => none
  | _ => none

/-- What the move makes of the pipeline; `none` where it cannot be made. -/
def step (c : Course) (s : State) (move : Move) : Option State :=
  match move with
  | .send stop => if s.signal.isHeld then some { s with signal := s.signal.send stop } else none
  | .lose => some { s with signal := s.signal.lose }
  | .expire => if s.closing = .limited then some { s with closing := .expired } else none
  | .plan | .learn _ | .look _ | .hand | .withdraw | .pause | .wake _ | .close => dispatch c s move
  | .lock _ | .check _ | .take _ | .attempt _ _ | .record _ | .abort _ => work c s move

end TaxLedger.Pipeline
