import TaxLedger.Address.Basic
import TaxLedger.Event.Flow
import TaxLedger.Message.Decoder

/-!
# Community messages

Coins given to the community pool, and deposits on proposals.
-/

namespace TaxLedger.Message

def fundCommunityPoolType : String := "/cosmos.distribution.v1beta1.MsgFundCommunityPool"

def submitProposalType : String := "/cosmos.gov.v1beta1.MsgSubmitProposal"

def submitProposalV1Type : String := "/cosmos.gov.v1.MsgSubmitProposal"

def depositType : String := "/cosmos.gov.v1beta1.MsgDeposit"

def depositV1Type : String := "/cosmos.gov.v1.MsgDeposit"

structure CommunityGift where
  depositor : String := ""
  pool : String := ""
  coins : List Coin := []
  deriving DecidableEq, Repr, Inhabited

namespace CommunityGift

/-- The account of the pool, with the prefix of the depositor's address; empty where that is no
address. -/
def poolFor (depositor : String) : String :=
  match Address.readablePart? depositor with
  | none => ""
  | some readable =>
    match Address.ofModule readable "distribution" with
    | .ok pool => pool
    | .error _ => ""

def bodyOfJson? (v : Json) : Option (String × List CoinText) :=
  match v.record? ["depositor", "amount"] with
  | some [depositor, amount] => do
    let depositor ← Json.required Json.readString depositor
    let amount ← Json.withDefault [] (Json.readList CoinText.ofJson?) amount
    return (depositor, amount)
  | _ => none

def read (typeUrl : String) (message : Json) (log : Option LogEntry) :
    Except DecodeError CommunityGift := do
  let _ ← requireAction typeUrl log
  let (depositor, amount) ← body bodyOfJson? message
  let coins ← coinsOfTexts amount
  return ⟨depositor, poolFor depositor, coins⟩

def view (g : CommunityGift) : Reading where
  description := "MsgFundCommunityPool: " ++ g.depositor ++ " gave " ++ Coin.renderList g.coins
  movements := g.coins.map (Movement.transfer g.depositor g.pool)

def decoder : Decoder := .make fundCommunityPoolType {} view read

end CommunityGift

/-- Coins that an account puts into escrow for a proposal, each with the account that holds it. -/
structure ProposalDeposit where
  depositor : String := ""
  deposits : List (String × Coin) := []
  deriving DecidableEq, Repr, Inhabited

namespace ProposalDeposit

def bodyOfJson? (v : Json) : Option (String × String) :=
  match v.record? ["proposer", "depositor"] with
  | some [proposer, depositor] => do
    let proposer ← Json.withDefault "" Json.readString proposer
    let depositor ← Json.withDefault "" Json.readString depositor
    return (proposer, depositor)
  | _ => none

/-- The deposits among the transfers of one event: those that the depositor sends. -/
def ofEvent (depositor : String) (e : Event) : Except DecodeError (List (String × Coin)) := do
  let transfers ← Transfer.ofEvent e
  let lists ← (transfers.filter fun t => t.sender == depositor).mapM fun t => do
    let coins ← Coin.parseList t.amount
    return coins.map fun coin => (t.recipient, coin)
  return lists.flatten

/-- A message without a log has no deposit. -/
def read (message : Json) (log : Option LogEntry) : Except DecodeError ProposalDeposit := do
  let (proposer, depositor) ← body bodyOfJson? message
  let depositor := if depositor = "" then proposer else depositor
  match log with
  | none => return ⟨depositor, []⟩
  | some entry =>
    let lists ← (entry.ofKind "transfer").mapM (ofEvent depositor)
    return ⟨depositor, lists.flatten⟩

def view (messageType : String) (p : ProposalDeposit) : Reading where
  description :=
    let subject := shortName messageType ++ ": " ++ p.depositor
    if p.deposits.isEmpty then subject ++ " made no deposit"
    else subject ++ " deposited " ++ Coin.renderList (p.deposits.map (·.2))
  movements := p.deposits.map fun (recipient, coin) => Movement.transfer p.depositor recipient coin

def decoder (messageType : String) : Decoder :=
  .make messageType {} (view messageType) fun _ message log => read message log

end ProposalDeposit

end TaxLedger.Message
