import TaxLedger.Pool.Basic

/-!
# Swaps in a pool

A swap with a fixed input or a fixed output. Logs of swaps changed their form several times, and each
form has a reader of its own.
-/

namespace TaxLedger.Pool

open Message

structure SwapInBody where
  sender : String
  hopDenoms : List String
  tokenIn : CoinText

namespace SwapInBody

def hopOfJson? (v : Json) : Option String :=
  match v.record? ["pool_id", "token_out_denom"] with
  | some [poolId, denom] => do
    let _ ← Json.withDefault "" Json.readIdentifier poolId
    Json.withDefault "" Json.readString denom
  | _ => none

def ofJson? (v : Json) : Option SwapInBody :=
  match v.record? ["sender", "routes", "token_in"] with
  | some [sender, routes, tokenIn] => do
    let sender ← Json.required Json.readString sender
    let hops ← Json.withDefault [] (Json.readList hopOfJson?) routes
    let tokenIn ← Json.required CoinText.ofJson? tokenIn
    return ⟨sender, hops, tokenIn⟩
  | _ => none

def checkOutput (b : SwapInBody) (typeUrl : String) (out : Coin) : Except DecodeError Unit :=
  if b.hopDenoms.getLast? = some out.denom then .ok ()
  else mismatch typeUrl "token out does not match last route"

end SwapInBody

/-- Reads the `token_swapped` event. It lists every hop; only the last output counts. -/
def swapInBySwapEvent : SwapReader := fun typeUrl message entry => do
  let b ← body SwapInBody.ofJson? message
  let swapped ← event typeUrl entry "token_swapped"
  let listed := swapped.first "tokens_in"
  let tokenIn ← if listed = "" then b.tokenIn.toCoin else Coin.parse listed
  let tokenOut ← Coin.parse (swapped.last "tokens_out")
  return ⟨orBody (swapped.first "sender") b.sender, tokenIn, tokenOut⟩

def swapInByClaim : SwapReader := fun typeUrl message entry => do
  let b ← body SwapInBody.ofJson? message
  let claim ← event typeUrl entry "claim"
  let tokenIn ← b.tokenIn.toCoin
  let tokenOut ← Coin.parse (claim.last "amount")
  return ⟨orBody (claim.first "sender") b.sender, tokenIn, tokenOut⟩

/-- The first transfer has to carry the input from the sender. -/
def checkInput (typeUrl sender : String) (tokenIn : Coin) (transfer : Event) :
    Except DecodeError Unit := do
  if transfer.nth "sender" 1 != sender then
    mismatch typeUrl "first transfer is not the token in"
  else
    let first ← Coin.parse (transfer.nth "amount" 1)
    if first = tokenIn then return ()
    else mismatch typeUrl "first transfer is not the token in"

/-- Reads the transfers, of which the second is the output. -/
def swapInBySecondTransfer : SwapReader := fun typeUrl message entry => do
  let b ← body SwapInBody.ofJson? message
  let transfer ← event typeUrl entry "transfer"
  let tokenIn ← b.tokenIn.toCoin
  checkInput typeUrl b.sender tokenIn transfer
  if transfer.nth "recipient" 2 != b.sender then
    mismatch typeUrl "second transfer is not to the sender"
  else
    let tokenOut ← Coin.parse (transfer.nth "amount" 2)
    b.checkOutput typeUrl tokenOut
    return ⟨b.sender, tokenIn, tokenOut⟩

/-- Reads the transfers, of which the last is the output. -/
def swapInByLastTransfer : SwapReader := fun typeUrl message entry => do
  let b ← body SwapInBody.ofJson? message
  let transfer ← event typeUrl entry "transfer"
  let tokenIn ← b.tokenIn.toCoin
  checkInput typeUrl b.sender tokenIn transfer
  if transfer.last "recipient" != b.sender then
    mismatch typeUrl "last transfer is not to the sender"
  else
    let tokenOut ← Coin.parse (transfer.last "amount")
    b.checkOutput typeUrl tokenOut
    return ⟨b.sender, tokenIn, tokenOut⟩

structure SwapOutBody where
  sender : String
  hopDenoms : List String
  tokenOut : CoinText

namespace SwapOutBody

def hopOfJson? (v : Json) : Option String :=
  match v.record? ["token_in_denom"] with
  | some [denom] => Json.withDefault "" Json.readString denom
  | _ => none

def ofJson? (v : Json) : Option SwapOutBody :=
  match v.record? ["sender", "routes", "token_out"] with
  | some [sender, routes, tokenOut] => do
    let sender ← Json.required Json.readString sender
    let hops ← Json.withDefault [] (Json.readList hopOfJson?) routes
    let tokenOut ← Json.required CoinText.ofJson? tokenOut
    return ⟨sender, hops, tokenOut⟩
  | _ => none

end SwapOutBody

/-- The first coin of a denomination among coins in print; each up to it has to be a coin. -/
def firstOfDenom (denom : String) : List String → Except DecodeError (Option Coin)
  | [] => .ok none
  | text :: rest => do
    let coin ← Coin.parse text
    if coin.denom = denom then return some coin else firstOfDenom denom rest

/-- Reads the `token_swapped` event, or else the transfers, where the input is the first coin of the
denomination that the first hop takes. -/
def swapOut : SwapReader := fun typeUrl message entry => do
  let b ← body SwapOutBody.ofJson? message
  match entry.firstOfKind? "token_swapped" with
  | some swapped =>
    let tokenIn ← Coin.parse (swapped.first "tokens_in")
    let tokenOut ← Coin.parse (swapped.last "tokens_out")
    return ⟨orBody (swapped.first "sender") b.sender, tokenIn, tokenOut⟩
  | none =>
    let transfer ← event typeUrl entry "transfer"
    match b.hopDenoms with
    | [] => missing typeUrl "routes"
    | denom :: _ =>
      match ← firstOfDenom denom (transfer.values "amount") with
      | none => missing typeUrl "transfer of the route's input denom"
      | some tokenIn =>
        let tokenOut ← Coin.parse (transfer.last "amount")
        return ⟨orBody (transfer.first "sender") b.sender, tokenIn, tokenOut⟩

end TaxLedger.Pool
