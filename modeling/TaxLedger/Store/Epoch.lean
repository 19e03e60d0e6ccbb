import TaxLedger.Store.Connection

/-!
# Epochs in the store

The epochs of a chain and whether the events of their first blocks are kept.
-/

namespace TaxLedger.Store

variable {ω : Type} [Server ω]

/-- Records the start of an epoch; one that is there stays as it is. -/
def recordEpoch (chain : Nat) (identifier : String) (number startHeight : Int) :
    Work (Store ω) Failure Unit := do
  let _ ← doing ("Failed to record " ++ identifier ++ " epoch " ++ toString number)
    (insertNew ({ chain, identifier, number, startHeight } : EpochRow))

/-- The epochs from `first` to `last` whose events are not kept, in order; a negative last number stands
for no end. -/
def pendingEpochs (chain : Nat) (identifier : String) (first last : Int) :
    Work (Store ω) Failure (List (Numbered EpochRow)) := do
  let rows ← doing "Failed to query epochs" (select [identifier] fun r : EpochRow =>
    r.chain == chain && r.identifier == identifier && !r.hasEvents && first ≤ r.number &&
      (last < 0 || r.number ≤ last))
  return rows.mergeSort fun a b => decide (a.row.number ≤ b.row.number)

def latestEpoch? (chain : Nat) (identifier : String) :
    Work (Store ω) Failure (Option (Numbered EpochRow)) := do
  let rows ← doing "Failed to query latest epoch" (select [identifier] fun r : EpochRow =>
    r.chain == chain && r.identifier == identifier)
  return (rows.mergeSort fun a b => decide (b.row.number ≤ a.row.number)).head?

def markEpoch (epoch : Nat) : Work (Store ω) Failure Unit :=
  doing "Failed to mark epoch as indexed"
    (update epoch fun r : EpochRow => { r with hasEvents := true })

end TaxLedger.Store
