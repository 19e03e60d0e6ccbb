import TaxLedger.Pool.Basic

/-!
# Leaving a pool

Shares of a pool given for one token or for all tokens of the pool.
-/

namespace TaxLedger.Pool

open Message

/-- Shares that were burnt, from the `burn` event. -/
def burntShares (typeUrl : String) (entry : LogEntry) : Except DecodeError Coin := do
  let burn ← event typeUrl entry "burn"
  let shares ← Coin.parse (burn.first "amount")
  if isShare shares.denom then return shares
  else mismatch typeUrl "burned coin is not a pool share"

/-- The swap of a `token_swapped` event: first input for last output. -/
def swapOfEvent (account : String) (swapped : Event) : Except DecodeError Movement := do
  let tokenIn ← Coin.parse (swapped.first "tokens_in")
  let tokenOut ← Coin.parse (swapped.last "tokens_out")
  return Movement.swap account tokenIn tokenOut

/-- An exit with fixed shares to one token. It may leave to all tokens of the pool and swap those
into the one that was asked for. -/
def exitShares : LiquidityReader := fun typeUrl message entry => do
  let sender ← body senderOfJson? message
  let shares ← burntShares typeUrl entry
  let (account, tokens) ← exited typeUrl entry sender
  let swaps ← (entry.ofKind "token_swapped").mapM (swapOfEvent account)
  return ⟨account, shares, tokens, swaps⟩

def exitToken : LiquidityReader := fun typeUrl message entry => do
  let sender ← body senderOfJson? message
  let shares ← burntShares typeUrl entry
  let (account, tokens) ← exited typeUrl entry sender
  return ⟨account, shares, tokens, []⟩

structure ExitBody where
  sender : String
  poolId : String
  shares : String
  deriving DecidableEq, Repr, Inhabited

def ExitBody.ofJson? (v : Json) : Option ExitBody :=
  match v.record? ["sender", "pool_id", "share_in_amount"] with
  | some [sender, poolId, shares] => do
    let sender ← Json.required Json.readString sender
    let poolId ← Json.withDefault "" Json.readIdentifier poolId
    let shares ← Json.withDefault "" Json.readString shares
    return ⟨sender, poolId, shares⟩
  | _ => none

/-- Reads the `pool_exited` event, and the shares from the last transfer. -/
def exitPoolByEvent : LiquidityReader := fun typeUrl message entry => do
  let b ← body ExitBody.ofJson? message
  let transfer ← event typeUrl entry "transfer"
  let shares ← Coin.parse (transfer.last "amount")
  if !isShare shares.denom then mismatch typeUrl "last transfer is not a pool share"
  else
    let (account, tokens) ← exited typeUrl entry b.sender
    return ⟨account, shares, tokens, []⟩

/-- Reads the tokens from the first transfer, and the shares from the body. -/
def exitPoolByTransfer : LiquidityReader := fun typeUrl message entry => do
  let b ← body ExitBody.ofJson? message
  let transfer ← event typeUrl entry "transfer"
  if transfer.first "recipient" != b.sender then
    mismatch typeUrl "first transfer is not to the sender"
  else
    let tokens ← Coin.parseList (transfer.first "amount")
    let amount ← Coin.parseAmount b.shares
    return ⟨b.sender, ⟨amount, shareDenom b.poolId⟩, tokens, []⟩

end TaxLedger.Pool
