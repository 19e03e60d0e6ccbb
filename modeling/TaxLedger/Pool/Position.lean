import TaxLedger.Pool.Basic

/-!
# Positions

Coins that an account puts into a position of concentrated liquidity or takes out of one.
-/

namespace TaxLedger.Pool.Position

open Message

inductive Direction where
  | into
  | out
  deriving DecidableEq, Repr

inductive Source where
  /-- In the coin events of the sender; the action may have to name the message type. -/
  | coinEvents (checksAction : Bool)
  /-- In the totals of collected incentives. -/
  | incentiveTotals
  deriving DecidableEq, Repr

def kinds : List (String × Direction × Source) := [
  ("/osmosis.concentratedliquidity.v1beta1.MsgCreatePosition", .into, .coinEvents true),
  ("/osmosis.concentratedliquidity.v1beta1.MsgAddToPosition", .into, .coinEvents true),
  ("/osmosis.concentratedliquidity.v1beta1.MsgWithdrawPosition", .out, .coinEvents true),
  ("/osmosis.concentratedliquidity.v1beta1.MsgTransferPositions", .out, .coinEvents true),
  ("/osmosis.concentratedliquidity.v1beta1.MsgCollectSpreadRewards", .out, .coinEvents false),
  ("/osmosis.concentratedliquidity.poolmodel.concentrated.v1beta1.MsgCreateConcentratedPool",
    .into, .coinEvents false),
  ("/osmosis.concentratedliquidity.v1beta1.MsgCollectIncentives", .out, .incentiveTotals)]

structure Change where
  account : String := ""
  coins : List Coin := []
  deriving DecidableEq, Repr, Inhabited

def coinsOf (direction : Direction) (source : Source) (typeUrl account : String) (entry : LogEntry) :
    Except DecodeError (List Coin) := do
  match source with
  | .incentiveTotals =>
    let lists ← ((entry.ofKind "total_collect_incentives").flatMap
      fun e => e.values "tokens_out").mapM Coin.parseList
    return lists.flatten
  | .coinEvents _ =>
    let kind := match direction with
      | .into => "coin_spent"
      | .out => "coin_received"
    let events := entry.ofKind kind
    if events.isEmpty then mismatch typeUrl ("no " ++ kind ++ " events")
    else
      match direction with
      | .into => coinsSpent account events
      | .out => coinsReceived account events

/-- Coins of amount zero are left out. -/
def read (direction : Direction) (source : Source) (typeUrl : String) (message : Json)
    (log : Option LogEntry) : Except DecodeError Change := do
  let entry ←
    if source = .coinEvents true then requireAction typeUrl log else requireLog typeUrl log
  let account ← body senderOfJson? message
  let coins ← coinsOf direction source typeUrl account entry
  return ⟨account, coins.filter fun c => c.amount.isPositive⟩

def view (messageType : String) (direction : Direction) (c : Change) : Reading :=
  let subject := shortName messageType ++ ": " ++ c.account
  match direction with
  | .into =>
    ⟨subject ++ " sent " ++ Coin.renderList c.coins, c.coins.map (Movement.payment c.account)⟩
  | .out =>
    ⟨subject ++ " received " ++ Coin.renderList c.coins, c.coins.map (Movement.receipt c.account)⟩

def decoder (messageType : String) (direction : Direction) (source : Source) : Decoder :=
  .make messageType {} (view messageType direction) (read direction source)

end TaxLedger.Pool.Position
