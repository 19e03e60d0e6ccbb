import TaxLedger.Pool.Basic

/-!
# Joining a pool

Tokens given for shares of a pool, by one token, by all tokens of the pool, or by creating it.
-/

namespace TaxLedger.Pool

open Message

/-- Body of a join with one token. The token is in the body only if its amount is fixed. -/
structure JoinBody where
  sender : String
  poolId : String
  deriving DecidableEq, Repr, Inhabited

def joinShareOfJson? (v : Json) : Option JoinBody :=
  match v.record? ["sender", "pool_id"] with
  | some [sender, poolId] => do
    let sender ← Json.required Json.readString sender
    let poolId ← Json.withDefault "" Json.readIdentifier poolId
    return ⟨sender, poolId⟩
  | _ => none

def joinTokenOfJson? (v : Json) : Option (JoinBody × CoinText) :=
  match v.record? ["sender", "pool_id", "token_in"] with
  | some [sender, poolId, tokenIn] => do
    let sender ← Json.required Json.readString sender
    let poolId ← Json.withDefault "" Json.readIdentifier poolId
    let tokenIn ← Json.required CoinText.ofJson? tokenIn
    return (⟨sender, poolId⟩, tokenIn)
  | _ => none

/-- Shares that were minted for the joiner, from the `coinbase` event. -/
def mintedShares (typeUrl : String) (entry : LogEntry) : Except DecodeError Coin := do
  let coinbase ← event typeUrl entry "coinbase"
  let amount := coinbase.first "amount"
  if isShare amount then Coin.parse amount
  else mismatch typeUrl "coinbase amount is not a pool share"

/-- The last amount in a list of attributes that is a share of the pool and stands two places behind
the recipient. -/
def lastShareTo (recipient poolId : String) : List Attribute → Option String
  | receiver :: mid :: amount :: rest =>
    match lastShareTo recipient poolId (mid :: amount :: rest) with
    | some text => some text
    | none =>
      if amount.key = "amount" && isShare amount.value &&
          ('/' :: poolId.toList).isSuffixOf amount.value.toList && receiver.key = "recipient" &&
          receiver.value = recipient then
        some amount.value
      else none
  | _ => none

/-- Shares of the pool that were transferred to the recipient, in the first `transfer` event. -/
def transferredShares (typeUrl : String) (entry : LogEntry) (b : JoinBody) :
    Except DecodeError Coin := do
  let transfer ← event typeUrl entry "transfer"
  match lastShareTo b.sender b.poolId transfer.attributes with
  | some text => Coin.parse text
  | none => missing typeUrl "pool share transfer to the sender"

def joinTokenByCoinbase : SwapReader := fun typeUrl message entry => do
  let (b, tokenIn) ← body joinTokenOfJson? message
  let shares ← mintedShares typeUrl entry
  let joined ← event typeUrl entry "pool_joined"
  let tokenIn ← tokenIn.toCoin
  return ⟨orBody (joined.first "sender") b.sender, tokenIn, shares⟩

def joinTokenByTransfer : SwapReader := fun typeUrl message entry => do
  let (b, tokenIn) ← body joinTokenOfJson? message
  let shares ← transferredShares typeUrl entry b
  let tokenIn ← tokenIn.toCoin
  return ⟨b.sender, tokenIn, shares⟩

def joinedToken (typeUrl : String) (entry : LogEntry) (sender : String) :
    Except DecodeError (String × Coin) := do
  let joined ← event typeUrl entry "pool_joined"
  let tokenIn ← Coin.parse (joined.first "tokens_in")
  return (orBody (joined.first "sender") sender, tokenIn)

def joinSharesByCoinbase : SwapReader := fun typeUrl message entry => do
  let b ← body joinShareOfJson? message
  let shares ← mintedShares typeUrl entry
  let (account, tokenIn) ← joinedToken typeUrl entry b.sender
  return ⟨account, tokenIn, shares⟩

def joinSharesByTransfer : SwapReader := fun typeUrl message entry => do
  let b ← body joinShareOfJson? message
  let shares ← transferredShares typeUrl entry b
  let (account, tokenIn) ← joinedToken typeUrl entry b.sender
  return ⟨account, tokenIn, shares⟩

/-- The first amount with several coins, and the sender right before it; the sender is empty where
another attribute stands there. -/
def listedDeposit? (previous : Option Attribute) : List Attribute → Option (String × String)
  | [] => none
  | a :: rest =>
    if a.key = "amount" && a.value.toList.contains ',' then
      let sender := match previous with
        | some p => if p.key = "sender" then p.value else ""
        | none => ""
      some (sender, a.value)
    else listedDeposit? (some a) rest

/-- The joiner and the tokens given: from the `pool_joined` event, or else from the transfers. -/
def joinedTokens (typeUrl : String) (entry : LogEntry) (transfer : Event) (sender : String) :
    Except DecodeError (String × List Coin) := do
  match entry.firstOfKind? "pool_joined" with
  | some joined =>
    let tokens ← Coin.parseList (joined.first "tokens_in")
    return (orBody (joined.first "sender") sender, tokens)
  | none =>
    match listedDeposit? none transfer.attributes with
    | none => missing typeUrl "multi-coin deposit transfer"
    | some (depositor, amount) =>
      if depositor != sender then mismatch typeUrl "deposit sender does not match"
      else
        let tokens ← Coin.parseList amount
        return (sender, tokens)

/-- The claimed coins of a join: the last transfer holds them where the log has a claim. -/
def claimedCoins (hasClaim : Bool) (transfer : Event) : Except DecodeError (List Coin) :=
  if hasClaim then Coin.parseList (transfer.last "amount") else .ok []

/-- A join with all tokens of the pool. Where the log has a claim, the last transfer holds claimed
coins and the second one the shares. -/
def joinPool : LiquidityReader := fun typeUrl message entry => do
  let sender ← body senderOfJson? message
  let transfer ← event typeUrl entry "transfer"
  let hasClaim := (entry.firstOfKind? "claim").isSome
  let claimed ← claimedCoins hasClaim transfer
  let shares ← Coin.parse (if hasClaim then transfer.nth "amount" 2 else transfer.last "amount")
  if !isShare shares.denom then mismatch typeUrl "join did not return pool shares"
  else
    let (account, tokens) ← joinedTokens typeUrl entry transfer sender
    return ⟨account, shares, tokens, claimed.map (Movement.receipt account)⟩

/-! ### Creating a pool -/

def createByCoinEvents : LiquidityReader := fun typeUrl message entry => do
  let sender ← body senderOfJson? message
  let spent ← coinsSpent sender (entry.ofKind "coin_spent")
  if spent.length < 2 then mismatch typeUrl "pool creation spent fewer than two assets"
  else
    let received ← coinsReceived sender (entry.ofKind "coin_received")
    match received with
    | [shares] =>
      if isShareDenom shares.denom then return ⟨sender, shares, spent, []⟩
      else mismatch typeUrl "expected exactly one pool share credit"
    | _ => mismatch typeUrl "expected exactly one pool share credit"

structure CreationFlow where
  spent : List Coin := []
  shares : Option Coin := none
  others : List (String × Coin) := []
  deriving DecidableEq, Repr, Inhabited

/-- Adds a coin that arrives: shares replace those before, and anything else is kept with its
sender. -/
def CreationFlow.receive (sender : String) (flow : CreationFlow) (coin : Coin) : CreationFlow :=
  if isShareDenom coin.denom then { flow with shares := some coin }
  else { flow with others := flow.others ++ [(sender, coin)] }

def CreationFlow.add (creator : String) (flow : CreationFlow) (t : Transfer) :
    Except DecodeError CreationFlow := do
  if t.recipient = creator then
    let coins ← Coin.parseList t.amount
    return coins.foldl (CreationFlow.receive t.sender) flow
  else if t.sender = creator then
    let coins ← Coin.parseList t.amount
    return { flow with spent := flow.spent ++ coins }
  else return flow

def createByTransfers : LiquidityReader := fun typeUrl message entry => do
  let creator ← body senderOfJson? message
  let flow ← Transfer.foldAll (CreationFlow.add creator) {} (entry.ofKind "transfer")
  match flow.shares with
  | none => missing typeUrl "pool share transfer to the creator"
  | some shares =>
    if flow.spent.isEmpty then missing typeUrl "assets spent by the creator"
    else
      return ⟨creator, shares, flow.spent,
        flow.others.map fun (sender, coin) => Movement.transfer sender creator coin⟩

end TaxLedger.Pool
