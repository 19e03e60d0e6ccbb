/-!
# The channels of the pipeline

Heights wait in a queue of limited length, the first in front. It is open as long as there is someone
to put heights in and someone to take them.

The indexer is asked to stop by a signal that keeps the value sent last. Whoever waits is woken by the
end of the wait, by a value, or by the loss of the one who could send.
-/

namespace TaxLedger

structure HeightQueue where
  capacity : Nat
  items : List Int := []
  /-- Whether there is someone to put heights in. -/
  isFed : Bool := true
  /-- Whether there is someone to take them. -/
  isServed : Bool := true
  deriving DecidableEq, Repr, Inhabited

namespace HeightQueue

def hasRoom (q : HeightQueue) : Bool := q.isServed && q.items.length < q.capacity

def push (q : HeightQueue) (height : Int) : HeightQueue := { q with items := q.items ++ [height] }

def pop? (q : HeightQueue) : Option (Int × HeightQueue) :=
  match q.items with
  | [] => none
  | height :: rest => some (height, { q with items := rest })

/-- Whether no height will ever come out again. -/
def isExhausted (q : HeightQueue) : Bool := q.items.isEmpty && !q.isFed

/-- The queue when nobody puts heights in any more. -/
def close (q : HeightQueue) : HeightQueue := { q with isFed := false }

/-- The queue when nobody takes heights any more; what is in it is lost. -/
def abandon (q : HeightQueue) : HeightQueue := { q with isServed := false, items := [] }

@[simp] theorem items_push (q : HeightQueue) (height : Int) :
    (q.push height).items = q.items ++ [height] := rfl

theorem isExhausted_iff {q : HeightQueue} :
    q.isExhausted = true ↔ q.items = [] ∧ q.isFed = false := by
  simp [isExhausted]

theorem pop?_eq_none_iff {q : HeightQueue} : q.pop? = none ↔ q.items = [] := by
  unfold pop?
  split <;> simp_all

theorem pop?_eq_some_iff {q q' : HeightQueue} {height : Int} :
    q.pop? = some (height, q') ↔
      ∃ rest, q.items = height :: rest ∧ q' = { q with items := rest } := by
  unfold pop?
  split
  · rename_i empty
    simp [empty]
  · rename_i front rest items
    simp only [items, Option.some.injEq, Prod.mk.injEq, List.cons.injEq]
    constructor
    · rintro ⟨rfl, rfl⟩
      exact ⟨rest, ⟨rfl, rfl⟩, rfl⟩
    · rintro ⟨_, ⟨rfl, rfl⟩, rfl⟩
      exact ⟨rfl, rfl⟩

end HeightQueue

/-- The signal that asks the indexer to stop. -/
structure Signal where
  /-- The value sent last. -/
  stop : Bool := false
  /-- Whether a value was sent at all. -/
  wasSent : Bool := false
  /-- Whether there is still someone who can send. -/
  isHeld : Bool := true
  deriving DecidableEq, Repr, Inhabited

inductive Waking where
  /-- The time is over. -/
  | elapsed
  /-- A value was sent. -/
  | sent
  /-- The one who could send is gone. -/
  | lost
  deriving DecidableEq, Repr, Inhabited

namespace Signal

def send (s : Signal) (stop : Bool) : Signal := { s with stop, wasSent := true }

/-- The signal when nobody can send any more. -/
def lose (s : Signal) : Signal := { s with isHeld := false }

/-- Whether a pause can end that way. A value that was sent goes before the loss of its sender. -/
def canWake (s : Signal) : Waking → Bool
  | .elapsed => true
  | .sent => s.wasSent
  | .lost => !s.isHeld && !s.wasSent

/-- Whether a pause that ends that way is the end of all. -/
def endsAll (s : Signal) : Waking → Bool
  | .elapsed => false
  | .sent => s.stop
  | .lost => true

/-- What ends a pause first, when time is the last to end it. -/
def firstWaking (s : Signal) : Waking :=
  if s.wasSent then .sent else if s.isHeld then .elapsed else .lost

/-- Whether a pause is the end of all: at its start when a stop was asked for before, else as it is
woken. -/
def pauseEndsAll (before during : Signal) : Bool :=
  before.stop || during.endsAll during.firstWaking

end Signal

end TaxLedger
