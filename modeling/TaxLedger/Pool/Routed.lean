import TaxLedger.Pool.Basic

/-!
# Routed swaps

Swaps along one route of pools or split over several routes. Each is one swap by its sender.
-/

namespace TaxLedger.Pool.Routed

open Message

def swapExactInType : String := "/osmosis.poolmanager.v1beta1.MsgSwapExactAmountIn"

def swapExactOutType : String := "/osmosis.poolmanager.v1beta1.MsgSwapExactAmountOut"

def splitExactInType : String := "/osmosis.poolmanager.v1beta1.MsgSplitRouteSwapExactAmountIn"

def splitExactOutType : String := "/osmosis.poolmanager.v1beta1.MsgSplitRouteSwapExactAmountOut"

/-- One way to read a routed swap; a message without a route has none. -/
abbrev Reader := (typeUrl : String) → Json → Option LogEntry → Except DecodeError (Option Swap)

def view (messageType : String) : Option Swap → Reading
  | some s =>
    ⟨shortName messageType ++ ": " ++ s.account ++ " swapped " ++ s.tokenIn.render ++ " for " ++
        s.tokenOut.render,
      [s.movement]⟩
  | none => ⟨shortName messageType ++ ": no route", []⟩

def decoder (messageType : String) (reader : Reader) : Decoder :=
  .make messageType none (view messageType) reader

/-! ### One route -/

structure InHop where
  poolId : String
  denomOut : String
  deriving DecidableEq, Repr, Inhabited

structure InBody where
  sender : String
  hops : List InHop
  tokenIn : CoinText

def inHopOfJson? (v : Json) : Option InHop :=
  match v.record? ["pool_id", "token_out_denom"] with
  | some [poolId, denom] => do
    let poolId ← Json.withDefault "" Json.readIdentifier poolId
    let denom ← Json.withDefault "" Json.readString denom
    return ⟨poolId, denom⟩
  | _ => none

def inBodyOfJson? (v : Json) : Option InBody :=
  match v.record? ["sender", "routes", "token_in"] with
  | some [sender, routes, tokenIn] => do
    let sender ← Json.required Json.readString sender
    let hops ← Json.withDefault [] (Json.readList inHopOfJson?) routes
    let tokenIn ← Json.required CoinText.ofJson? tokenIn
    return ⟨sender, hops, tokenIn⟩
  | _ => none

/-- The output that a `token_swapped` event tells, if it is that of the last hop. -/
def outputOfSwapEvent (lastHop : InHop) (swapped : Event) : Except DecodeError (Option Coin) := do
  let out := swapped.last "tokens_out"
  if out = "" then return none
  else
    let coin ← Coin.parse out
    if coin.denom = lastHop.denomOut && swapped.last "pool_id" = lastHop.poolId then
      return some coin
    else return none

/-- The coin of the last group of a transfer event, if it goes to the recipient and is of the
denomination. -/
def payoutTo (recipient denom : String) (e : Event) : Except DecodeError (Option Coin) := do
  let groups ← Transfer.ofEvent e
  match groups.getLast? with
  | none => return none
  | some last =>
    if last.recipient != recipient then return none
    else
      let coin ← Coin.parse last.amount
      return if coin.denom = denom then some coin else none

/-- How many transfer events are looked at, from the last one on. -/
def transferLookback : Nat := 2

/-- The first payout that one of the transfer events tells. Each event comes with its place in the
log. -/
def firstPayout (typeUrl recipient denom : String) : List (Event × Nat) →
    Except DecodeError (Option Coin)
  | [] => .ok none
  | (e, index) :: rest =>
    match payoutTo recipient denom e with
    | .error problem =>
      mismatch typeUrl
        ("Last processed index " ++ toString index ++ ": " ++ problem.message)
    | .ok (some coin) => .ok (some coin)
    | .ok none => firstPayout typeUrl recipient denom rest

/-- A swap with a fixed input. The output is what the last `token_swapped` event tells for the last
hop, or else what one of the last transfer events pays to the sender. -/
def exactIn : Reader := fun typeUrl message log => do
  let entry ← requireAction typeUrl log
  let b ← body inBodyOfJson? message
  let tokenIn ← b.tokenIn.toCoin
  match b.hops.getLast? with
  | none => mismatch typeUrl "no routes"
  | some lastHop =>
    let swapped ← match (entry.ofKind "token_swapped").getLast? with
      | some e => outputOfSwapEvent lastHop e
      | none => pure none
    match swapped with
    | some tokenOut => return some ⟨b.sender, tokenIn, tokenOut⟩
    | none =>
      let candidates := (entry.ofKind "transfer").zipIdx.reverse.take transferLookback
      match ← firstPayout typeUrl b.sender lastHop.denomOut candidates with
      | some tokenOut => return some ⟨b.sender, tokenIn, tokenOut⟩
      | none => mismatch typeUrl "no output found for the final route"

structure OutBody where
  sender : String
  hopDenoms : List String
  tokenOut : CoinText

def denomOfJson? (name : String) (v : Json) : Option String :=
  match v.record? [name] with
  | some [denom] => Json.withDefault "" Json.readString denom
  | _ => none

def outBodyOfJson? (v : Json) : Option OutBody :=
  match v.record? ["sender", "routes", "token_out"] with
  | some [sender, routes, tokenOut] => do
    let sender ← Json.required Json.readString sender
    let hops ← Json.withDefault [] (Json.readList (denomOfJson? "token_in_denom")) routes
    let tokenOut ← Json.required CoinText.ofJson? tokenOut
    return ⟨sender, hops, tokenOut⟩
  | _ => none

structure ContractFlow where
  paid : Option Coin := none
  refunded : Option Coin := none
  deriving DecidableEq, Repr, Inhabited

/-- Adds one transfer. The first payment and the first refund of the denomination count. -/
def ContractFlow.add (sender contract denom : String) (flow : ContractFlow) (t : Transfer) :
    Except DecodeError ContractFlow := do
  let coin ← Coin.parse t.amount
  if coin.denom != denom then return flow
  else if flow.paid.isNone && t.sender = sender && t.recipient = contract then
    return { flow with paid := some coin }
  else if flow.refunded.isNone && t.sender = contract && t.recipient = sender then
    return { flow with refunded := some coin }
  else return flow

/-- The contract that the last of the `wasm` events with an address names. -/
def swapContract? (entry : LogEntry) : Option String :=
  ((entry.ofKind "wasm").reverse.map fun e => e.last "_contract_address").find? fun a => a != ""

/-- The input of a swap that a contract carries out: what the sender paid to the contract, less what
the contract refunded. -/
def contractInput (typeUrl : String) (entry : LogEntry) (b : OutBody) : Except DecodeError Coin := do
  match b.hopDenoms with
  | [] => mismatch typeUrl "no routes"
  | denom :: _ =>
    match swapContract? entry with
    | none => mismatch typeUrl "wasm event without contract address"
    | some contract =>
      let flow ← Transfer.foldAll (ContractFlow.add b.sender contract denom) {}
        (entry.ofKind "transfer")
      match flow.paid with
      | none => mismatch typeUrl "no payment to the swap contract"
      | some paid =>
        let net := paid.amount - (flow.refunded.map (·.amount)).getD 0
        if net.isNegative then mismatch typeUrl "contract refunded more than it was paid"
        else return ⟨net, denom⟩

def exactOut : Reader := fun typeUrl message log => do
  let entry ← requireLog typeUrl log
  let b ← body outBodyOfJson? message
  let tokenIn ←
    match entry.firstOfKind? "token_swapped" with
    | some swapped => Coin.parse (swapped.first "tokens_in")
    | none =>
      if (entry.firstOfKind? "wasm").isSome then contractInput typeUrl entry b
      else mismatch typeUrl "neither token_swapped nor wasm event"
  let tokenOut ← b.tokenOut.toCoin
  return some ⟨b.sender, tokenIn, tokenOut⟩

/-! ### Several routes -/

/-- One of several routes: the denominations at its open end, in hop order, and its fixed amount. -/
structure SplitRoute where
  denoms : List String
  amount : String
  deriving DecidableEq, Repr, Inhabited

structure SplitBody where
  sender : String
  routes : List SplitRoute
  denom : String
  deriving DecidableEq, Repr, Inhabited

def splitRouteOfJson? (hopField amountField : String) (v : Json) : Option SplitRoute :=
  match v.record? ["pools", amountField] with
  | some [pools, amount] => do
    let denoms ← Json.withDefault [] (Json.readList (denomOfJson? hopField)) pools
    let amount ← Json.required Json.readString amount
    return ⟨denoms, amount⟩
  | _ => none

def splitBodyOfJson? (hopField amountField denomField : String) (v : Json) : Option SplitBody :=
  match v.record? ["sender", "routes", denomField] with
  | some [sender, routes, denom] => do
    let sender ← Json.required Json.readString sender
    let routes ← Json.withDefault [] (Json.readList (splitRouteOfJson? hopField amountField)) routes
    let denom ← Json.required Json.readString denom
    return ⟨sender, routes, denom⟩
  | _ => none

def totalAmount (routes : List SplitRoute) : Except DecodeError Decimal := do
  let amounts ← routes.mapM fun r => Coin.parseAmount r.amount
  return amounts.foldl (· + ·) 0

/-- The amount at the open end, which the event of that kind tells as its output for either
direction. -/
def splitAmount (typeUrl kind : String) (entry : LogEntry) : Except DecodeError Decimal := do
  let e ← requireEvent typeUrl entry kind "missing split route event"
  Coin.parseAmount (e.first "tokens_out")

def splitIn : Reader := fun typeUrl message log => do
  let entry ← requireLog typeUrl log
  let b ← body (splitBodyOfJson? "token_out_denom" "token_in_amount" "token_in_denom") message
  let denomOut := ((b.routes.findSome? fun r => r.denoms.getLast?)).getD ""
  if denomOut = "" then return none
  else
    let total ← totalAmount b.routes
    let amountOut ← splitAmount typeUrl "split_route_swap_exact_amount_in" entry
    return some ⟨b.sender, ⟨total, b.denom⟩, ⟨amountOut, denomOut⟩⟩

/-- The input denomination of routes and the sum of their fixed outputs. All routes that have hops
take the same denomination. -/
def splitOutTotals (typeUrl : String) (denom : Option String) (total : Decimal) :
    List SplitRoute → Except DecodeError (Option String × Decimal)
  | [] => .ok (denom, total)
  | r :: rest => do
    let denom ← match r.denoms.head?, denom with
      | none, denom => pure denom
      | some first, none => pure (some first)
      | some first, some known =>
        if known = first then pure (some known)
        else mismatch typeUrl "routes spend different input denoms"
    let amount ← Coin.parseAmount r.amount
    splitOutTotals typeUrl denom (total + amount) rest

def splitOut : Reader := fun typeUrl message log => do
  let entry ← requireLog typeUrl log
  let b ← body (splitBodyOfJson? "token_in_denom" "token_out_amount" "token_out_denom") message
  let (denom, total) ← splitOutTotals typeUrl none 0 b.routes
  match denom.filter (· != "") with
  | none => return none
  | some denomIn =>
    let amountIn ← splitAmount typeUrl "split_route_swap_exact_amount_out" entry
    return some ⟨b.sender, ⟨amountIn, denomIn⟩, ⟨total, b.denom⟩⟩

def readers : List (String × Reader) := [
  (swapExactInType, exactIn),
  (swapExactOutType, exactOut),
  (splitExactInType, splitIn),
  (splitExactOutType, splitOut)]

end TaxLedger.Pool.Routed
