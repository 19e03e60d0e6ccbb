import TaxLedger.Address.Basic
import TaxLedger.Proofs.Bytes.Base64
import TaxLedger.Proofs.Bytes.Hex
import TaxLedger.Proofs.Result

/-!
Public keys and their addresses. The bytes of a key are read from each of their written forms
(`keyBytes_of_written`), and the address of a key depends on no more than the type and the bytes of the
key that is innermost in it (`address_ignores_form`).
-/

namespace TaxLedger.Address

/-- The texts that write the bytes of a key: digits in base sixteen, each in either case, and padded
base64. -/
inductive Written (bytes : List UInt8) : String → Prop
  | hex {text : String} (digits : text.toList.map Char.toLower = (Hex.encode bytes).toList) :
      Written bytes text
  | base64 : Written bytes (Base64.encode bytes)

/-- The key that first members lead to, however deep, in a key with several members; a key of one
signer itself. -/
inductive Innermost : Json → Json → Prop
  | single {key : Json} (alone : keyType key ≠ multisigKey) : Innermost key key
  | multisig {key first inner : Json} {others : List Json} (several : keyType key = multisigKey)
      (members : key.get? "public_keys" = some (.arr (first :: others)))
      (leads : Innermost first inner) : Innermost key inner

/-- A key that comes down to one of that type with those bytes, in whatever form it writes them. -/
def ComesTo (key : Json) (kind : String) (bytes : List UInt8) : Prop :=
  ∃ inner text, Innermost key inner ∧ keyType inner = kind ∧
    inner.get? "key" = some (.str text) ∧ Written bytes text

/-- The sizes of a key: 32 bytes, 33 in the short form of a point, 65 in the long one. -/
def IsKeySize (bytes : List UInt8) : Prop :=
  bytes.length = 32 ∨ bytes.length = 33 ∨ bytes.length = 65

/-! ### The bytes of a key -/

section
variable {bytes : List UInt8} {text : String}

theorem keyBytes_hex (size : IsKeySize bytes)
    (digits : text.toList.map Char.toLower = (Hex.encode bytes).toList) :
    keyBytes text = .ok bytes := by
  unfold keyBytes
  rw [Hex.decode?_of_digits digits]
  simp only [Bool.or_eq_true, decide_eq_true_eq, or_assoc]
  exact if_pos size

/-- A text in base64 may consist of digits in base sixteen, but these are too few for a key. -/
theorem not_isKeySize_of_base64 {misread : List UInt8} (size : IsKeySize bytes)
    (read : Hex.decode? (Base64.encode bytes) = some misread) : ¬IsKeySize misread := by
  rw [Hex.decode?, Base64.encode, String.toList_ofList] at read
  have length := Hex.length_of_decodeChars? read
  rw [Base64.length_encodeChars] at length
  unfold IsKeySize at size ⊢
  omega

theorem keyBytes_base64 (size : IsKeySize bytes) : keyBytes (Base64.encode bytes) = .ok bytes := by
  unfold keyBytes
  cases read : Hex.decode? (Base64.encode bytes) with
  | none => simp only [Base64.decode?_encode]
  | some misread =>
    have other := not_isKeySize_of_base64 size read
    simp only [Bool.or_eq_true, decide_eq_true_eq, or_assoc, Base64.decode?_encode]
    exact if_neg other

theorem keyBytes_of_written (size : IsKeySize bytes) (written : Written bytes text) :
    keyBytes text = .ok bytes := by
  cases written with
  | hex digits => exact keyBytes_hex size digits
  | base64 => exact keyBytes_base64 size

end

/-! ### The key that counts -/

section
variable {key inner : Json}

theorem leadingKey_single (alone : keyType key ≠ multisigKey) : leadingKey key = .ok key := by
  rw [leadingKey, if_neg alone]

theorem leadingKey_multisig {first : Json} (several : keyType key = multisigKey)
    (found : firstMember? key = some first) : leadingKey key = leadingKey first := by
  rw [leadingKey, if_pos several]
  split
  · rename_i own same
    rw [found] at same
    cases same
    rfl
  · rename_i none
    rw [found] at none
    cases none

theorem Innermost.leadingKey (innermost : Innermost key inner) :
    leadingKey key = .ok inner ∧ keyType inner ≠ multisigKey := by
  induction innermost with
  | single alone => exact ⟨leadingKey_single alone, alone⟩
  | multisig several members _ ih =>
    refine ⟨(leadingKey_multisig several ?_).trans ih.1, ih.2⟩
    rw [firstMember?, members]
    rfl

theorem Innermost.ofPublicKey (innermost : Innermost key inner) (readable : String) :
    ofPublicKey readable key = ofPublicKey readable inner := by
  obtain ⟨leads, alone⟩ := innermost.leadingKey
  unfold Address.ofPublicKey
  rw [leads, leadingKey_single alone]

theorem ofPublicKey_of_written {bytes : List UInt8} {text : String} (size : IsKeySize bytes)
    (alone : keyType key ≠ multisigKey) (told : key.get? "key" = some (.str text))
    (written : Written bytes text) (readable : String) :
    ofPublicKey readable key = accountBytes (keyType key) bytes >>= ofBytes readable := by
  unfold ofPublicKey
  rw [leadingKey_single alone]
  simp only [bind, Except.bind, told, Option.bind, Json.asString?, keyBytes_of_written size written]

theorem ofPublicKey_of_comesTo {kind : String} {bytes : List UInt8} (size : IsKeySize bytes)
    (comes : ComesTo key kind bytes) (readable : String) :
    ofPublicKey readable key = accountBytes kind bytes >>= ofBytes readable := by
  obtain ⟨inner, text, innermost, rfl, told, written⟩ := comes
  rw [innermost.ofPublicKey]
  exact ofPublicKey_of_written size innermost.leadingKey.2 told written readable

end

/-- The bytes of a key are read from all of its written forms. A key with several members has the
address of the key that first members lead to, or fails as that key does, and with all keys that come
down to one type and the same bytes it shares the address that these have. -/
theorem address_ignores_form :
    (∀ bytes, IsKeySize bytes → ∀ text, Written bytes text → keyBytes text = .ok bytes) ∧
    (∀ key inner, Innermost key inner →
      ∀ readable, ofPublicKey readable key = ofPublicKey readable inner) ∧
    ∀ bytes, IsKeySize bytes → ∀ kind key key', ComesTo key kind bytes → ComesTo key' kind bytes →
      ∀ readable, ofPublicKey readable key = ofPublicKey readable key' ∧
        ofPublicKey readable key = accountBytes kind bytes >>= ofBytes readable := by
  refine ⟨?_, ?_, ?_⟩
  · intro bytes size text written
    exact keyBytes_of_written size written
  · intro key inner innermost readable
    exact innermost.ofPublicKey readable
  · intro bytes size kind key key' comes comes' readable
    have address := ofPublicKey_of_comesTo size comes readable
    exact ⟨address.trans (ofPublicKey_of_comesTo size comes' readable).symm, address⟩

def generator : List UInt8 :=
  [0x02, 0x79, 0xbe, 0x66, 0x7e, 0xf9, 0xdc, 0xbb, 0xac, 0x55, 0xa0, 0x62, 0x95, 0xce, 0x87, 0x0b, 0x07,
    0x02, 0x9b, 0xfc, 0xdb, 0x2d, 0xce, 0x28, 0xd9, 0x59, 0xf2, 0x81, 0x5b, 0x16, 0xf8, 0x17, 0x98]

def signerKey (text : String) : Json := .obj [("@type", .str secp256k1Key), ("key", .str text)]

def memberKeys (members : List Json) : Json :=
  .obj [("@type", .str multisigKey), ("threshold", .int 1), ("public_keys", .arr members)]

/-- A key in digits of mixed case, below two keys with several members, and the same in base64. -/
theorem address_ignores_form_of_nested :
    let digits := "0279BE667EF9DCBBAC55A06295CE870B07029bfcdb2dce28d959f2815b16f81798"
    let symbols := "Anm+Zn753LusVaBilc6HCwcCm/zbLc4o2VnygVsW+BeY"
    let nested := memberKeys [memberKeys [signerKey digits, .null], signerKey "AAAA"]
    IsKeySize generator ∧ Written generator digits ∧ Written generator symbols ∧
      keyBytes digits = .ok generator ∧ keyBytes symbols = .ok generator ∧
      Innermost nested (signerKey digits) ∧
      ofPublicKey "osmo" nested = ofPublicKey "osmo" (signerKey digits) ∧
      ComesTo nested secp256k1Key generator ∧ ComesTo (signerKey symbols) secp256k1Key generator ∧
      ofPublicKey "osmo" nested = ofPublicKey "osmo" (signerKey symbols) := by
  intro digits symbols nested
  obtain ⟨reads, leads, shares⟩ := address_ignores_form
  have size : IsKeySize generator := .inr (.inl rfl)
  have spelled : Written generator digits := .hex (by decide +kernel)
  have encoded : Base64.encode generator = symbols := by decide +kernel
  have spelled' : Written generator symbols := encoded ▸ .base64
  have alone (text : String) : Innermost (signerKey text) (signerKey text) :=
    .single (show secp256k1Key ≠ multisigKey by decide)
  have innermost : Innermost nested (signerKey digits) :=
    .multisig rfl rfl (.multisig rfl rfl (alone digits))
  have comes : ComesTo nested secp256k1Key generator := ⟨_, digits, innermost, rfl, rfl, spelled⟩
  have comes' : ComesTo (signerKey symbols) secp256k1Key generator :=
    ⟨_, symbols, alone symbols, rfl, rfl, spelled'⟩
  exact ⟨size, spelled, spelled', reads _ size _ spelled, reads _ size _ spelled', innermost,
    leads _ _ innermost _, comes, comes', (shares _ size _ _ _ comes comes' _).1⟩

end TaxLedger.Address
