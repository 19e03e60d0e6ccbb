import TaxLedger.Pipeline.Schedule

/-!
# A single height

What comes of one height that the dispatcher has to hand over, when nobody takes heights out of the
queue meanwhile.
-/

namespace TaxLedger.Pipeline

inductive Offer where
  /-- The dispatcher may go on: the height is in the queue, or it is passed over. -/
  | done
  /-- The dispatcher has ended. -/
  | ended
  | failed (failure : Failure)
  /-- There is no room, and nothing that would change it. -/
  | waiting
  deriving DecidableEq, Repr, Inhabited

def stillSurroundings (stop : Bool) (failedBefore : Int → Except Failure Bool) :
    Surroundings Unit where
  isStopAsked _ := stop
  tip := pure 0
  failedBefore height := Work.ofResult (failedBefore height)
  index _ := pure ()
  recordFailure _ _ := pure ()
  announce _ s := s

/-- Lets the dispatcher go on with its height, for at most `turns` turns. -/
def offerFrom (c : Course) (around : Surroundings Unit) : (turns : Nat) → State → State × Offer
  | 0, s => (s, .waiting)
  | turns + 1, s =>
    match s.phase with
    | .planning (.listed []) => (s, .done)
    | .ended (.ok ()) => (s, .ended)
    | .ended (.error failure) => (s, .failed failure)
    | .pausing _ =>
      match step c s (.wake .elapsed) with
      | some s => offerFrom c around turns s
      | none => (s, .waiting)
    | _ =>
      match (dispatcherTurn c 0 around : Work (State × Unit) Failure Bool).on (s, ()) with
      | some (.ok true, (s, ())) => offerFrom c around turns s
      | _ => (s, .waiting)

/-- A dispatcher has at most six turns with one height. -/
def offerTurns : Nat := 8

def offer (c : Course) (failedBefore : Int → Except Failure Bool) (height : Int) (s : State) :
    State × Offer :=
  offerFrom c (stillSurroundings s.signal.stop failedBefore) offerTurns
    { s with phase := .planning (.listed [height]), closing := .notYet }

end TaxLedger.Pipeline
