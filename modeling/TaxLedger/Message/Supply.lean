import TaxLedger.Message.Decoder

/-!
# Supply messages

Coins of a token factory that are minted or burnt.
-/

namespace TaxLedger.Message

def mintType : String := "/osmosis.tokenfactory.v1beta1.MsgMint"

def burnType : String := "/osmosis.tokenfactory.v1beta1.MsgBurn"

inductive SupplyChange where
  | mint
  | burn
  deriving DecidableEq, Repr

structure Supply where
  account : String := ""
  coin : Option Coin := none
  deriving DecidableEq, Repr, Inhabited

namespace Supply

def bodyOfJson? (v : Json) : Option (String × CoinText × String × String) :=
  match v.record? ["sender", "amount", "mint_to_address", "burn_from_address"] with
  | some [sender, amount, mintTo, burnFrom] => do
    let sender ← Json.required Json.readString sender
    let amount ← Json.required CoinText.ofJson? amount
    let mintTo ← Json.withDefault "" Json.readString mintTo
    let burnFrom ← Json.withDefault "" Json.readString burnFrom
    return (sender, amount, mintTo, burnFrom)
  | _ => none

/-- The account that the body names for the change goes before the sender. -/
def read (change : SupplyChange) (typeUrl : String) (message : Json) (log : Option LogEntry) :
    Except DecodeError Supply := do
  let _ ← requireAction typeUrl log
  let (sender, amount, mintTo, burnFrom) ← body bodyOfJson? message
  let target := match change with
    | .mint => mintTo
    | .burn => burnFrom
  let coin ← amount.toCoin
  return ⟨if target = "" then sender else target, some coin⟩

def view (change : SupplyChange) (s : Supply) : Reading :=
  let coin := (s.coin.map Coin.render).getD ""
  match change with
  | .mint =>
    ⟨"MsgMint: " ++ s.account ++ " received " ++ coin, s.coin.toList.map (Movement.receipt s.account)⟩
  | .burn =>
    ⟨"MsgBurn: " ++ s.account ++ " sent " ++ coin, s.coin.toList.map (Movement.payment s.account)⟩

def decoder (change : SupplyChange) : Decoder :=
  .make (match change with | .mint => mintType | .burn => burnType) {} (view change) (read change)

end Supply

end TaxLedger.Message
