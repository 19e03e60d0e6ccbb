import TaxLedger.Bytes.Hex
import TaxLedger.Bytes.Utf8
import TaxLedger.Coin
import TaxLedger.Digest.Sha256

/-!
# Denominations across chains

A coin from another chain carries the path it took: pairs of a port and a channel, then the base
denomination. On this chain it is known by a hash of that trace.
-/

namespace TaxLedger.Ibc

def voucher (trace : String) : String :=
  "ibc/" ++ Hex.encodeUpper (Sha256.digest (Utf8.encode trace))

def isChannel (segment : List Char) : Bool := "channel-".toList.isPrefixOf segment

/-- Whether the segments of a trace start with a hop: a port, a channel and something behind them. -/
def startsWithHop : List (List Char) → Bool
  | _ :: channel :: _ :: _ => isChannel channel
  | _ => false

/-- The denomination on this chain for a full trace: a voucher for a trace with hops, else the trace
itself. -/
def localDenom (trace : String) : String :=
  if startsWithHop (Coin.splitChars '/' trace.toList) then voucher trace else trace

structure Route where
  sourcePort : String := ""
  sourceChannel : String := ""
  destinationPort : String := ""
  destinationChannel : String := ""
  deriving DecidableEq, Repr, Inhabited

def dropFront? (front cs : List Char) : Option (List Char) :=
  if front.isPrefixOf cs then some (cs.drop front.length) else none

/-- The denomination credited for an incoming coin. A coin that comes back drops the hop it took on
its way out, any other takes on the hop of the packet. -/
def receivedDenom (route : Route) (trace : String) : String :=
  let hop := (route.sourcePort ++ "/" ++ route.sourceChannel ++ "/").toList
  match dropFront? hop trace.toList with
  | some unwound => localDenom (String.ofList unwound)
  | none => voucher (route.destinationPort ++ "/" ++ route.destinationChannel ++ "/" ++ trace)

end TaxLedger.Ibc
