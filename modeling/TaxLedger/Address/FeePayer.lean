import TaxLedger.Address.Basic
import TaxLedger.Text.LowerCase
import TaxLedger.Transaction

/-!
# Fee payers

The account that pays the fee of a transaction, and with that signs it.
-/

namespace TaxLedger

/-- Members of a message that name its signer, in the order they are tried. -/
def signerFields : List String :=
  ["signer", "sender", "from_address", "delegator_address", "depositor", "proposer", "voter",
    "granter", "owner"]

def messageSigner? (message : Json) : Option String :=
  ((signerFields.filterMap fun name => (message.get? name).bind Json.asString?).find?
    fun s => s != "").map Text.lower

/-- The account that pays the fee: the payer that the fee names, else the account of the first
signer's key, else the signer of the first message. An error tells why a key gives no account. -/
def Transaction.feePayer (readable : String) (tx : Transaction) :
    Except AddressError (Option String) :=
  let payer := Text.trim tx.signed.fee.payer
  if payer != "" then .ok (some (Text.lower payer))
  else
    match tx.signed.signers.head?.bind id with
    | some key => (Address.ofPublicKey readable key).map some
    | none => .ok (tx.signed.messages.head?.bind messageSigner?)

end TaxLedger
