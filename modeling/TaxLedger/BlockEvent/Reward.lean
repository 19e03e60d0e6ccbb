import TaxLedger.BlockEvent.Handler
import TaxLedger.Bytes.Base64

/-!
# Reward distributions

Rewards for liquidity, paid at the beginning of an epoch's first block. Older nodes write keys and
values of the attributes in base64.
-/

namespace TaxLedger.BlockEvent.Reward

def eventKind : String := "distribution"

inductive Encoding where
  | plain
  | base64
  deriving DecidableEq, Repr

def Encoding.decode : Encoding → String → Except DecodeError String
  | .plain, raw => .ok raw
  | .base64, raw =>
    match Base64.decode? raw with
    | none => .error .base64
    | some bytes =>
      match Utf8.decode? bytes with
      | some text => .ok text
      | none => .error (.logFormat eventKind "attribute is not UTF-8")

structure Distribution where
  receiver : String := ""
  rewards : List Coin := []
  deriving DecidableEq, Repr, Inhabited

/-- The receiver and the amount among the attributes; the last of each counts. Values of other
attributes are not decoded. -/
def attributesOf (encoding : Encoding) (receiver amount : String) :
    List Attribute → Except DecodeError (String × String)
  | [] => .ok (receiver, amount)
  | a :: rest => do
    let key ← encoding.decode a.key
    if key = "receiver" then
      let value ← encoding.decode a.value
      attributesOf encoding value amount rest
    else if key = "amount" then
      let value ← encoding.decode a.value
      attributesOf encoding receiver value rest
    else attributesOf encoding receiver amount rest

def read (encoding : Encoding) (e : Event) : Except DecodeError Distribution := do
  let (receiver, amount) ← attributesOf encoding "" "" e.attributes
  if receiver = "" || amount = "" then
    throw (.logFormat eventKind "rewards received or address were not present")
  else
    let rewards ← Coin.parseList amount
    return ⟨receiver, rewards⟩

def view (d : Distribution) : Reading where
  description :=
    "Osmosis incentives " ++ eventKind ++ ": " ++ d.receiver ++ " received " ++
      Coin.renderList d.rewards ++ " in rewards"
  records := d.rewards.map fun coin => ⟨.rewardDistribution, d.receiver, coin⟩

def handler (encoding : Encoding) : Handler where
  blank := view {}
  read e := (read encoding e).map view

end TaxLedger.BlockEvent.Reward
