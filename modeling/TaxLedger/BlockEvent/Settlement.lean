import TaxLedger.BlockEvent.Handler

/-!
# Batch settlements

What changes hands when a pool carries out a batch at the end of a block. The requests tell only what
was handed over.
-/

namespace TaxLedger.BlockEvent.Settlement

/-- A deposit, swap or withdrawal that is settled; any other kind of event settles nothing. -/
inductive Kind where
  | deposit
  | swap
  | withdrawal
  | other (name : String)
  deriving DecidableEq, Repr

def Kind.eventKind : Kind → String
  | .deposit => "deposit_to_pool"
  | .swap => "swap_transacted"
  | .withdrawal => "withdraw_from_pool"
  | .other name => name

def Kind.sources : Kind → Source × Source
  | .deposit => (.depositedCoins, .depositShares)
  | .swap => (.swapGiven, .swapGotten)
  | _ => (.withdrawalShares, .withdrawnCoins)

structure Settled where
  account : String := ""
  status : String := ""
  paid : List Coin := []
  received : List Coin := []
  deriving DecidableEq, Repr, Inhabited

/-- The value of an attribute, which must not be empty. -/
def required (e : Event) (key : String) : Except DecodeError String :=
  if e.first key = "" then .error (.logFormat e.kind ("missing attribute " ++ key))
  else .ok (e.first key)

def coinOfParts (e : Event) (amountKey denomKey : String) : Except DecodeError Coin := do
  let amount ← Coin.parseAmount (← required e amountKey)
  let denom ← required e denomKey
  return ⟨amount, denom⟩

def coinsOf (e : Event) (key : String) : Except DecodeError (List Coin) := do
  Coin.parseList (← required e key)

def flows (kind : Kind) (e : Event) : Except DecodeError (String × List Coin × List Coin) :=
  match kind with
  | .deposit => do
    let paid ← coinsOf e "accepted_coins"
    let received ← coinOfParts e "pool_coin_amount" "pool_coin_denom"
    return ("depositor", paid, [received])
  | .swap => do
    let paid ← coinOfParts e "exchanged_offer_coin_amount" "offer_coin_denom"
    let received ← coinOfParts e "exchanged_demand_coin_amount" "demand_coin_denom"
    return ("swap_requester", [paid], [received])
  | .withdrawal => do
    let paid ← coinOfParts e "pool_coin_amount" "pool_coin_denom"
    let received ← coinsOf e "withdraw_coins"
    return ("withdrawer", [paid], received)
  | .other name => throw (.unknownMessageType name)

def read (kind : Kind) (e : Event) : Except DecodeError Settled := do
  let (accountKey, paid, received) ← flows kind e
  let account ← required e accountKey
  return ⟨account, e.first "success", paid, received⟩

/-- A settlement that did not succeed has no records. -/
def Settled.records (kind : Kind) (s : Settled) : List Record :=
  if s.status != "success" then []
  else
    s.paid.map (fun coin => ⟨kind.sources.1, s.account, coin⟩) ++
      s.received.map (fun coin => ⟨kind.sources.2, s.account, coin⟩)

def view (kind : Kind) (s : Settled) : Reading where
  description :=
    "Tendermint liquidity " ++ kind.eventKind ++ ": " ++ s.account ++ " paid " ++
      Coin.renderList s.paid ++ " and received " ++ Coin.renderList s.received ++
      " with status " ++ s.status
  records := s.records kind

def handler (kind : Kind) : Handler where
  blank := view kind {}
  read e := (read kind e).map (view kind)

end TaxLedger.BlockEvent.Settlement
