import TaxLedger.Binary64
import TaxLedger.Work

/-!
# Retries

An action that fails is tried again, with longer and longer waits up to a limit, until it succeeds or
its budget is spent.
-/

namespace TaxLedger

/-- How often an action is tried again and how long the waits are at most. -/
structure Backoff where
  /-- Tries after the first one; a negative number means without end. -/
  maxAttempts : Int
  /-- The limit of a wait in seconds. -/
  maxWait : Nat
  deriving DecidableEq, Repr, Inhabited

namespace Backoff

/-- A budget with a limit in seconds. Half a minute stands in for a negative limit, and no limit is
below two seconds. -/
def ofSeconds (maxAttempts maxWait : Int) : Backoff :=
  ⟨maxAttempts, max (if maxWait < 0 then 30 else maxWait.toNat) 2⟩

def growth : Binary64 := Binary64.ofRatio false 3 2

/-- Tries after which every wait is longer than any limit of 64 bits. -/
def steepest : Nat := 128

/-- The power of a number by repeated squaring, with every product rounded. -/
def powerFrom (acc base : Binary64) (n : Nat) : Binary64 :=
  if h : n = 0 then acc
  else
    let acc := if n % 2 = 1 then acc.mul base else acc
    if n / 2 = 0 then acc else powerFrom acc (base.mul base) (n / 2)
termination_by n
decreasing_by omega

/-- The wait before try number `attempt` in seconds, without the limit. -/
def unlimitedDelay (attempt : Nat) : Binary64 :=
  powerFrom (Binary64.ofInt 1) growth (min attempt steepest)

def nanosPerSecond : Nat := 1000000000

def delayNanos (b : Backoff) (attempt : Nat) : Nat :=
  let seconds := unlimitedDelay attempt
  if seconds.magnitudeGe (Binary64.ofInt b.maxWait) then b.maxWait * nanosPerSecond
  else Binary64.roundHalfEven (seconds.ratio.1 * nanosPerSecond) seconds.ratio.2

/-- Whether there is another try after so many. -/
def allows (b : Backoff) (tries : Nat) : Bool := b.maxAttempts < 0 || (tries : Int) < b.maxAttempts

variable {σ ε α : Type}

/-- Runs `action` until it succeeds or the budget is spent, after `tries` tries. Before each further try
`pause` waits for so many nanoseconds. Not finished after `patience` runs. The tries are counted in 32
bits, so that this holds for fewer than `2 ^ 32` failures in a row. -/
def runPausing (b : Backoff) (pause : Nat → Work σ ε Unit) (action : Work σ ε α) :
    (patience tries : Nat) → Work σ ε α
  | 0, _ => Work.unfinished
  | patience + 1, tries => do
    match ← action.outcome with
    | .ok value => return value
    | .error e =>
      if b.allows tries then
        pause (b.delayNanos (tries + 1))
        runPausing b pause action patience (tries + 1)
      else throw e

def runFrom (b : Backoff) (action : Work σ ε α) (patience tries : Nat) : Work σ ε α :=
  b.runPausing (fun _ => return ()) action patience tries

theorem runFrom_succ (b : Backoff) (action : Work σ ε α) (patience tries : Nat) :
    b.runFrom action (patience + 1) tries = (do
      match ← action.outcome with
      | .ok value => return value
      | .error e => if b.allows tries then b.runFrom action patience (tries + 1) else throw e) :=
  rfl

def run (b : Backoff) (patience : Nat) (action : Work σ ε α) : Work σ ε α :=
  runFrom b action patience 0

/-- Runs `action` within the budget and hands the last error to `record` when it is spent. Whether the
action succeeded. -/
def runOrRecord {ε' : Type} (b : Backoff) (patience : Nat) (action : Work σ ε Unit)
    (record : ε → Work σ ε' Unit) : Work σ ε' Bool := do
  match ← (b.run patience action).outcome with
  | .ok () => return true
  | .error e =>
    record e
    return false

end Backoff

end TaxLedger
