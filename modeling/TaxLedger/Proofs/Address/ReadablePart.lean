import TaxLedger.Address.Basic
import TaxLedger.Proofs.Address.Bech32
import TaxLedger.Text.LowerCase

/-!
The readable part of an address. An address has the readable part that it was made with, in lower case
(`readablePart?_ofBytes`), and wherever there is one address with a readable part there is one for each
module of the chain (`exists_ofModule`).
-/

namespace TaxLedger

namespace Text

theorem lowerFrom_of_ascii {cs : List Char} (ascii : ∀ c ∈ cs, c.toNat < 128) (before : List Char) :
    lowerFrom before cs = cs.map Char.toLower := by
  induction cs generalizing before with
  | nil => rfl
  | cons c rest ih =>
    obtain ⟨own, others⟩ := List.forall_mem_cons.mp ascii
    have image : lowerChar c = [c.toLower] := if_pos own
    rw [lowerFrom, if_neg (by omega), image, ih others]
    rfl

theorem lower_of_ascii {s : String} (ascii : ∀ c ∈ s.toList, c.toNat < 128) :
    (lower s).toList = s.toList.map Char.toLower := by
  rw [lower, String.toList_ofList, lowerFrom_of_ascii ascii]

end Text

namespace Address

section
variable {readable address : String} {bytes : List UInt8}

theorem ofBytes_eq_ok_iff :
    ofBytes readable bytes = .ok address ↔
      Bech32.isReadablePart readable.toList = true ∧
        Bech32.encode? readable.toList bytes = some address := by
  unfold ofBytes
  dsimp only
  cases Bech32.isReadablePart readable.toList with
  | false => simp
  | true => cases Bech32.encode? readable.toList bytes <;> simp

theorem toList_lower (valid : Bech32.isReadablePart readable.toList = true) :
    (Text.lower readable).toList = readable.toList.map Char.toLower := by
  obtain ⟨_, _, visible, _⟩ := Bech32.isReadablePart_iff.mp valid
  apply Text.lower_of_ascii
  intro c member
  have own := visible c member
  omega

theorem readablePart?_ofBytes (made : ofBytes readable bytes = .ok address) :
    readablePart? address = some (Text.lower readable) := by
  obtain ⟨valid, encoded⟩ := ofBytes_eq_ok_iff.mp made
  rw [readablePart?, Bech32.decode?_encode valid encoded, ← toList_lower valid]
  exact congrArg some String.ofList_toList

theorem ofBytes_lower (valid : Bech32.isReadablePart readable.toList = true) (bytes : List UInt8) :
    ofBytes (Text.lower readable) bytes = ofBytes readable bytes := by
  have valid' : Bech32.isReadablePart (Text.lower readable).toList = true := by
    rw [toList_lower valid]
    exact Bech32.isReadablePart_lower valid
  rw [toList_lower valid] at valid'
  unfold ofBytes
  dsimp only
  rw [toList_lower valid, valid, valid', Bech32.encode?_lower valid]
  rfl

/-- Twenty bytes fit behind every readable part. -/
theorem exists_ofModule (valid : Bech32.isReadablePart readable.toList = true) (moduleName : String) :
    ∃ account, ofModule readable moduleName = .ok account := by
  obtain ⟨_, short, _⟩ := Bech32.isReadablePart_iff.mp valid
  have few : ((Sha256.digest (Utf8.encode moduleName)).take 20).length ≤ 20 := List.length_take_le _ _
  have length := Bech32.length_toValues ((Sha256.digest (Utf8.encode moduleName)).take 20)
  obtain ⟨account, encoded⟩ : ∃ account,
      Bech32.encode? readable.toList ((Sha256.digest (Utf8.encode moduleName)).take 20) =
        some account := by
    simp only [Bech32.encode?_eq_some_iff]
    refine ⟨String.ofList _, ?_, String.toList_ofList⟩
    show _ ≤ 1023
    omega
  exact ⟨account, ofBytes_eq_ok_iff.mpr ⟨valid, encoded⟩⟩

end

end Address

end TaxLedger
