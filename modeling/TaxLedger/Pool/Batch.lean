import TaxLedger.Message.Decoder

/-!
# Batch requests

Deposits, withdrawals and swaps that a pool carries out in a batch at the end of the block. The
message itself only hands coins over; what comes back is told by the block's events.
-/

namespace TaxLedger.Pool.Batch

open Message

inductive Request where
  | deposit
  | withdrawal
  | swap
  deriving DecidableEq, Repr

def requests : List Request := [.deposit, .withdrawal, .swap]

def Request.messageType : Request → String
  | .deposit => "/tendermint.liquidity.v1beta1.MsgDepositWithinBatch"
  | .withdrawal => "/tendermint.liquidity.v1beta1.MsgWithdrawWithinBatch"
  | .swap => "/tendermint.liquidity.v1beta1.MsgSwapWithinBatch"

structure HandOver where
  account : String := ""
  coins : List Coin := []
  deriving DecidableEq, Repr, Inhabited

def depositOfJson? (v : Json) : Option (String × List CoinText) :=
  match v.record? ["depositor_address", "deposit_coins"] with
  | some [account, coins] => do
    let account ← Json.required Json.readString account
    let coins ← Json.withDefault [] (Json.readList CoinText.ofJson?) coins
    return (account, coins)
  | _ => none

def oneCoinOfJson? (accountField coinField : String) (v : Json) :
    Option (String × List CoinText) :=
  match v.record? [accountField, coinField] with
  | some [account, coin] => do
    let account ← Json.required Json.readString account
    let coin ← Json.required CoinText.ofJson? coin
    return (account, [coin])
  | _ => none

def bodyOfJson? : Request → Json → Option (String × List CoinText)
  | .deposit => depositOfJson?
  | .withdrawal => oneCoinOfJson? "withdrawer_address" "pool_coin"
  | .swap => oneCoinOfJson? "swap_requester_address" "offer_coin"

/-- The type of the message decides what its body holds. -/
def read (typeUrl : String) (message : Json) : Except DecodeError HandOver := do
  match requests.find? fun r => r.messageType == typeUrl with
  | none => throw (.unknownMessageType typeUrl)
  | some request =>
    let (account, coins) ← body (bodyOfJson? request) message
    let coins ← coinsOfTexts coins
    return ⟨account, coins⟩

def view (messageType : String) (h : HandOver) : Reading where
  description :=
    shortName messageType ++ ": " ++ h.account ++ " sent " ++ Coin.renderList h.coins
  movements := h.coins.map (Movement.payment h.account)

def decoder (request : Request) : Decoder :=
  .make request.messageType {} (view request.messageType) fun typeUrl message _ =>
    read typeUrl message

end TaxLedger.Pool.Batch
