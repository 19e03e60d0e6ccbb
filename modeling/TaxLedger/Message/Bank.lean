import TaxLedger.Message.Decoder

/-!
# Bank messages

Coins sent from one account to another, and from one account to several.
-/

namespace TaxLedger.Message

def sendType : String := "/cosmos.bank.v1beta1.MsgSend"

def multiSendType : String := "/cosmos.bank.v1beta1.MsgMultiSend"

structure Send where
  sender : String := ""
  recipient : String := ""
  coins : List Coin := []
  deriving DecidableEq, Repr, Inhabited

namespace Send

def bodyOfJson? (v : Json) : Option (String × String × List CoinText) :=
  match v.record? ["from_address", "to_address", "amount"] with
  | some [sender, recipient, amount] => do
    let sender ← Json.required Json.readString sender
    let recipient ← Json.required Json.readString recipient
    let amount ← Json.withDefault [] (Json.readList CoinText.ofJson?) amount
    return (sender, recipient, amount)
  | _ => none

def read (message : Json) : Except DecodeError Send := do
  let (sender, recipient, amount) ← body bodyOfJson? message
  let coins ← coinsOfTexts amount
  return ⟨sender, recipient, coins⟩

def view (s : Send) : Reading where
  description :=
    "MsgSend: " ++ s.recipient ++ " received " ++ Coin.renderList s.coins ++ " from " ++ s.sender
  movements := s.coins.map (Movement.transfer s.sender s.recipient)

def decoder : Decoder := .make sendType {} view fun _ message _ => read message

end Send

/-- Coins that one account sends to several. There can only be one sender, the first. -/
structure MultiSend where
  sender : String := ""
  outputs : List (String × Coin) := []
  deriving DecidableEq, Repr, Inhabited

namespace MultiSend

def entryOfJson? (v : Json) : Option (String × List CoinText) :=
  match v.record? ["address", "coins"] with
  | some [address, coins] => do
    let address ← Json.required Json.readString address
    let coins ← Json.withDefault [] (Json.readList CoinText.ofJson?) coins
    return (address, coins)
  | _ => none

def bodyOfJson? (v : Json) : Option (List (String × List CoinText) × List (String × List CoinText)) :=
  match v.record? ["inputs", "outputs"] with
  | some [inputs, outputs] => do
    let inputs ← Json.withDefault [] (Json.readList entryOfJson?) inputs
    let outputs ← Json.withDefault [] (Json.readList entryOfJson?) outputs
    return (inputs, outputs)
  | _ => none

def read (typeUrl : String) (message : Json) : Except DecodeError MultiSend := do
  let (inputs, outputs) ← body bodyOfJson? message
  match inputs with
  | [] => throw (.logFormat typeUrl "multi-send without inputs")
  | (sender, _) :: _ =>
    let outputs ← outputs.mapM fun (address, coins) => do
      let coins ← coinsOfTexts coins
      return coins.map fun coin => (address, coin)
    return ⟨sender, outputs.flatten⟩

def view (s : MultiSend) : Reading where
  description :=
    "MsgMultiSend: " ++ s.sender ++ " sent to " ++ toString s.outputs.length ++ " outputs"
  movements := s.outputs.map fun (recipient, coin) => Movement.transfer s.sender recipient coin

def decoder : Decoder := .make multiSendType {} view fun typeUrl message _ => read typeUrl message

end MultiSend

end TaxLedger.Message
