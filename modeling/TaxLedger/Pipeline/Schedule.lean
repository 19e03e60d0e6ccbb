import TaxLedger.Pipeline.Basic

/-!
# A run of the pipeline

One order of moves among all that are possible: the dispatcher goes on until it has to wait, then a
worker indexes a height, and time passes only when nobody has anything else to do. Every change of the
pipeline is a move of `step`.
-/

namespace TaxLedger.Pipeline

structure Surroundings (σ : Type) where
  isStopAsked : σ → Bool
  /-- One try to learn how far the chain has come. -/
  tip : Work σ Failure Int
  /-- Whether a height has failed before. -/
  failedBefore : Int → Work σ Failure Bool
  index : Int → Work σ Failure Unit
  recordFailure : Int → Failure → Work σ Failure Unit
  /-- Tells the reader of the log. -/
  announce : String → σ → σ

variable {σ ε : Type}

def make (c : Course) (m : Move) : Work (State × σ) ε Unit :=
  ExceptT.mk fun (p, s) => (step c p m).map fun p => (.ok (), (p, s))

def tell (around : Surroundings σ) : Option String → Work (State × σ) ε Unit
  | none => pure ()
  | some line => Work.change fun (p, s) => (p, around.announce line s)

def stretchNews (c : Course) (next : Int) : Except Failure Int → Option String
  | .ok tip =>
    if next ≤ c.target tip then
      some ("Indexing heights " ++ toString next ++ " to " ++ toString (c.target tip))
    else none
  | .error _ => none

def planNews (c : Course) : Plan → Option String
  | .stretch next target tip =>
    if next ≤ target then none
    else if c.isOver next then some ("Reached end block " ++ toString c.lastHeight)
    else if c.exitWhenCaughtUp then
      some ("Caught up with the node at height " ++ toString tip)
    else none
  | _ => none

def closeNews (grace : Nat) (stop : Bool) : Option String :=
  if stop then some ("Shutting down, waiting up to " ++ toString grace ++ "s for workers") else none

def heedStop (c : Course) (around : Surroundings σ) : Work (State × σ) ε Unit := do
  let (p, s) ← Work.look id
  if around.isStopAsked s && !p.signal.stop then make c (.send true)

/-- Lets the dispatcher do one thing. Whether there was something to do; `grace` is the time of grace in
seconds. -/
def dispatcherTurn (c : Course) (grace : Nat) (around : Surroundings σ) :
    Work (State × σ) ε Bool := do
  let p ← Work.look Prod.fst
  match p.phase with
  | .planning plan =>
    tell around (planNews c plan)
    make c .plan
    return true
  | .polling next _ =>
    let tip ← around.tip.onSecond.outcome
    tell around (stretchNews c next tip)
    make c (.learn tip)
    return true
  | .checking height _ =>
    let failedBefore ← (around.failedBefore height).onSecond.outcome
    make c (.look failedBefore)
    return true
  | .offering _ _ =>
    if p.queue.hasRoom then
      make c .hand
      return true
    else if p.signal.stop || !p.queue.isServed then
      make c .withdraw
      return true
    else return false
  | .settling _ =>
    make c .pause
    return true
  | .pausing _ =>
    match p.signal.firstWaking with
    | .elapsed => return false
    | waking =>
      make c (.wake waking)
      return true
  | .ended _ =>
    match p.closing with
    | .notYet =>
      tell around (closeNews grace p.signal.stop)
      make c .close
      return true
    | _ => return false

def tryOnce (c : Course) (around : Surroundings σ) (worker : Nat) (height : Int) :
    Work (State × σ) Failure Unit := do
  let result ← (around.index height).onSecond.outcome
  make c (.attempt worker result)
  Work.ofResult result

def recordOnce (c : Course) (around : Surroundings σ) (worker : Nat) (height : Int)
    (failure : Failure) : Work (State × σ) ε Unit := do
  let _ ← (around.recordFailure height failure).onSecond.outcome
  make c (.record worker)

def State.hasNews (s : State) : Bool := s.signal.stop || !s.queue.items.isEmpty || !s.queue.isFed

/-- Lets a worker that holds the lock look at the signal and into the queue, and index the height that it
takes. -/
def receive (c : Course) (patience : Nat) (around : Surroundings σ) (worker : Nat) :
    Work (State × σ) ε Unit := do
  make c (.check worker)
  let p ← Work.look Prod.fst
  if p.workers[worker]? = some .ready then
    make c (.take worker)
    match p.queue.pop? with
    | some (height, _) =>
      let _ ← c.budget.runOrRecord patience (tryOnce c around worker height)
        (recordOnce c around worker height)
    | none => return ()

/-- Lets a worker get hold of the queue, or take a height out of it and index it. Whether there was
something to do. -/
def workerTurn (c : Course) (patience : Nat) (around : Surroundings σ) (worker : Nat) :
    Work (State × σ) ε Bool := do
  let p ← Work.look Prod.fst
  match p.workers[worker]? with
  | some .idle =>
    if p.isLocked then return false
    else
      make c (.lock worker)
      return true
  | some .waiting =>
    if p.hasNews then
      receive c patience around worker
      return true
    else return false
  | _ => return false

/-- Lets the first of the workers that has something to do do it. -/
def workersTurn (c : Course) (patience : Nat) (around : Surroundings σ) :
    List Nat → Work (State × σ) ε Bool
  | [] => return false
  | worker :: rest => do
    if ← workerTurn c patience around worker then return true
    else workersTurn c patience around rest

/-- Goes on until nobody has anything to do; not finished after `patience` turns. -/
def runFrom (c : Course) (grace : Nat) (around : Surroundings σ) (tries : Nat) :
    (patience : Nat) → Work (State × σ) ε Unit
  | 0 => Work.unfinished
  | patience + 1 => do
    heedStop c around
    if ← dispatcherTurn c grace around then runFrom c grace around tries patience
    else if ← workersTurn c tries around (List.range c.workers) then
      runFrom c grace around tries patience
    else
      match (← Work.look fun (s : State × σ) => s.1.phase) with
      | .pausing _ =>
        make c (.wake .elapsed)
        runFrom c grace around tries patience
      | _ => return ()

def run (c : Course) (grace patience : Nat) (around : Surroundings σ) :
    Work (State × σ) ε Unit := runFrom c grace around patience patience

end TaxLedger.Pipeline
