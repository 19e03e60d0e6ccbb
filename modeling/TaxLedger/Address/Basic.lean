import TaxLedger.Address.Bech32
import TaxLedger.Address.Secp256k1
import TaxLedger.Bytes.Base64
import TaxLedger.Bytes.Hex
import TaxLedger.Digest.Ripemd160
import TaxLedger.Digest.Sha256

/-!
# Account addresses

An account is known by the bech32 text of twenty bytes, which come from its public key or, for an
account of the chain itself, from the name of its module.
-/

namespace TaxLedger

inductive AddressError where
  | invalidPrefix (text : String)
  | tooLong
  | multisigWithoutMembers
  | noKey (keyType : String)
  | unreadableKey (key : String)
  | invalidKey
  | unsupportedKeyType (keyType : String)
  deriving DecidableEq, Repr, Inhabited

namespace AddressError

def message : AddressError → String
  | .invalidPrefix text => "Invalid bech32 prefix " ++ text
  | .tooLong => "Failed to bech32 encode address"
  | .multisigWithoutMembers => "Multisig public key has no members"
  | .noKey keyType => "Public key of type " ++ Text.quoted keyType ++ " has no key field"
  | .unreadableKey key => "Public key " ++ key ++ " is neither hex nor base64"
  | .invalidKey => "Invalid secp256k1 public key"
  | .unsupportedKeyType keyType => "Unsupported public key type " ++ keyType

end AddressError

namespace Address

def ofBytes (readable : String) (bytes : List UInt8) : Except AddressError String :=
  let cs := readable.toList
  if !Bech32.isReadablePart cs then .error (.invalidPrefix readable)
  else
    match Bech32.encode? cs bytes with
    | some s => .ok s
    | none => .error .tooLong

def readablePart? (address : String) : Option String :=
  (Bech32.decode? address).map fun (readable, _) => String.ofList readable

def ofModule (readable moduleName : String) : Except AddressError String :=
  ofBytes readable ((Sha256.digest (Utf8.encode moduleName)).take 20)

/-- The bytes of a key: base sixteen where that gives the size of a key, else base64. -/
def keyBytes (text : String) : Except AddressError (List UInt8) :=
  let fallback :=
    match Base64.decode? text with
    | some bytes => .ok bytes
    | none => .error (.unreadableKey text)
  match Hex.decode? text with
  | some bytes =>
    if bytes.length = 32 || bytes.length = 33 || bytes.length = 65 then .ok bytes else fallback
  | none => fallback

def secp256k1Key : String := "/cosmos.crypto.secp256k1.PubKey"

def ed25519Key : String := "/cosmos.crypto.ed25519.PubKey"

def multisigKey : String := "/cosmos.crypto.multisig.LegacyAminoPubKey"

/-- The account bytes of a key of one signer. A key without a type counts as secp256k1, and a long
form of such a key as the short one. -/
def accountBytes (keyType : String) (raw : List UInt8) : Except AddressError (List UInt8) :=
  if keyType = ed25519Key then .ok ((Sha256.digest raw).take 20)
  else if keyType = secp256k1Key || keyType = "" then
    match Secp256k1.compress? raw with
    | some point => .ok (Ripemd160.digest (Sha256.digest point))
    | none => .error .invalidKey
  else .error (.unsupportedKeyType keyType)

def keyType (key : Json) : String := ((key.get? "@type").bind Json.asString?).getD ""

def firstMember? (key : Json) : Option Json :=
  ((key.get? "public_keys").bind Json.asArray?).bind List.head?

theorem sizeOf_firstMember {key first : Json} (found : firstMember? key = some first) :
    sizeOf first < sizeOf key := by
  obtain ⟨items, listed, head⟩ := Option.bind_eq_some_iff.mp found
  obtain ⟨members, named, array⟩ := Option.bind_eq_some_iff.mp listed
  have inside := Json.sizeOf_get? named
  have among := List.sizeOf_lt_of_mem (List.mem_of_head? head)
  cases members with
  | arr own =>
    cases array
    rw [Json.arr.sizeOf_spec] at inside
    omega
  | _ => cases array

/-- The key whose address counts: of a key with several members the one that counts for the first
member. -/
def leadingKey (key : Json) : Except AddressError Json :=
  if keyType key = multisigKey then
    match _ : firstMember? key with
    | some first => leadingKey first
    | none => .error .multisigWithoutMembers
  else .ok key
termination_by sizeOf key
decreasing_by exact sizeOf_firstMember ‹_›

def ofPublicKey (readable : String) (key : Json) : Except AddressError String := do
  let key ← leadingKey key
  match (key.get? "key").bind Json.asString? with
  | none => .error (.noKey (keyType key))
  | some text =>
    let raw ← keyBytes text
    let bytes ← accountBytes (keyType key) raw
    ofBytes readable bytes

end Address

end TaxLedger
