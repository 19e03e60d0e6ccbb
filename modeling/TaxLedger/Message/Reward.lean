import TaxLedger.Event.Flow
import TaxLedger.Message.Decoder

/-!
# Reward messages

Rewards that a delegator or validator withdraws, on purpose or by changing a delegation.
-/

namespace TaxLedger.Message

def withdrawRewardType : String := "/cosmos.distribution.v1beta1.MsgWithdrawDelegatorReward"

def withdrawCommissionType : String := "/cosmos.distribution.v1beta1.MsgWithdrawValidatorCommission"

def delegateType : String := "/cosmos.staking.v1beta1.MsgDelegate"

def undelegateType : String := "/cosmos.staking.v1beta1.MsgUndelegate"

def redelegateType : String := "/cosmos.staking.v1beta1.MsgBeginRedelegate"

structure Payout where
  receiver : String := ""
  coins : List Coin := []
  deriving DecidableEq, Repr, Inhabited

namespace Payout

def movements (p : Payout) : List Movement := p.coins.map (Movement.receipt p.receiver)

end Payout

namespace Withdrawal

def bodyOfJson? (v : Json) : Option String :=
  match v.record? ["delegator_address"] with
  | some [delegator] => Json.withDefault "" Json.readString delegator
  | _ => none

/-- The first `coin_received` event tells the receiver and the coins; a delegator that the body names
has to be the receiver. -/
def read (typeUrl : String) (message : Json) (log : Option LogEntry) :
    Except DecodeError Payout := do
  let entry ← requireAction typeUrl log
  let received ← requireEvent typeUrl entry "coin_received" "no coin_received event"
  let receiver := received.first "receiver"
  let coins ← Coin.parseList (received.first "amount")
  let delegator ← body bodyOfJson? message
  if delegator != "" && delegator != receiver then
    throw (.logFormat typeUrl
      ("delegator " ++ delegator ++ " does not match coin_received receiver " ++ receiver))
  return ⟨receiver, coins⟩

def view (messageType : String) (p : Payout) : Reading where
  description :=
    shortName messageType ++ ": " ++ p.receiver ++ " received " ++ Coin.renderList p.coins
  movements := p.movements

def decoder (messageType : String) : Decoder := .make messageType {} (view messageType) read

end Withdrawal

namespace Delegation

def bodyOfJson? (v : Json) : Option String :=
  match v.record? ["delegator_address"] with
  | some [delegator] => Json.required Json.readString delegator
  | _ => none

/-- All coins that the delegator receives while the delegation changes are rewards; the bonded coins
themselves are not received. -/
def read (typeUrl : String) (message : Json) (log : Option LogEntry) :
    Except DecodeError Payout := do
  let entry ← requireAction typeUrl log
  let delegator ← body bodyOfJson? message
  let rewards ← coinsReceived delegator (entry.ofKind "coin_received")
  return ⟨delegator, rewards⟩

def view (messageType : String) (p : Payout) : Reading where
  description :=
    let subject := shortName messageType ++ ": " ++ p.receiver
    if p.coins.isEmpty then subject ++ " did not withdraw rewards"
    else subject ++ " received rewards " ++ Coin.renderList p.coins
  movements := p.movements

def decoder (messageType : String) : Decoder := .make messageType {} (view messageType) read

end Delegation

namespace ValidatorSet

def messageTypes : List String := [
  "/osmosis.valsetpref.v1beta1.MsgDelegateToValidatorSet",
  "/osmosis.valsetpref.v1beta1.MsgUndelegateFromValidatorSet",
  "/osmosis.valsetpref.v1beta1.MsgRedelegateValidatorSet",
  "/osmosis.valsetpref.v1beta1.MsgWithdrawDelegationRewards"]

def bodyOfJson? (v : Json) : Option String :=
  match v.record? ["delegator"] with
  | some [delegator] => Json.required Json.readString delegator
  | _ => none

/-- All coins that the delegator receives are rewards; those of amount zero are left out. -/
def read (typeUrl : String) (message : Json) (log : Option LogEntry) :
    Except DecodeError Payout := do
  let entry ← requireAction typeUrl log
  let delegator ← body bodyOfJson? message
  let rewards ← coinsReceived delegator (entry.ofKind "coin_received")
  return ⟨delegator, rewards.filter fun c => c.amount.isPositive⟩

def decoder (messageType : String) : Decoder :=
  .make messageType {} (Withdrawal.view messageType) read

end ValidatorSet

end TaxLedger.Message
