import TaxLedger.BlockEvent.Results
import TaxLedger.BlockEvent.Reward
import TaxLedger.BlockEvent.Settlement

/-!
# Handlers by chain

The handlers for the blocks of a chain and for the first blocks of its epochs.
-/

namespace TaxLedger.BlockEvent

def osmosisChain : String := "osmosis-1"

def cosmosHubChain : String := "cosmoshub-4"

def dayEpoch : String := "day"

structure Handlers where
  beginBlock : HandlerTable := {}
  endBlock : HandlerTable := {}

/-- Handlers of reward distributions, the plain form first. -/
def rewardTable : HandlerTable :=
  (({} : HandlerTable).add Reward.eventKind (Reward.handler .plain)).add Reward.eventKind
    (Reward.handler .base64)

def settlementTable : HandlerTable :=
  [Settlement.Kind.deposit, .swap, .withdrawal].foldl
    (fun t kind => t.add kind.eventKind (Settlement.handler kind)) {}

namespace Handlers

def forChain (chain : String) : Handlers :=
  if chain = osmosisChain then { beginBlock := rewardTable }
  else if chain = cosmosHubChain then { endBlock := settlementTable }
  else {}

def forEpoch? (chain identifier : String) : Option Handlers :=
  if chain = osmosisChain && identifier = dayEpoch then some { beginBlock := rewardTable } else none

def isEmpty (h : Handlers) : Bool := h.beginBlock.isEmpty && h.endBlock.isEmpty

/-- The records of a block: those of its beginning, then those of its end. -/
def process (h : Handlers) (r : Results) : Except DecodeError (List Record) := do
  let first ← h.beginBlock.process .beginBlock r.beginEvents
  let last ← h.endBlock.process .endBlock r.endEvents
  return first ++ last

end Handlers

end TaxLedger.BlockEvent
