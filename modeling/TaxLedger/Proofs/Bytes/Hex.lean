import TaxLedger.Bytes.Hex

/-!
Bytes in base sixteen and back. The digits of bytes are read as those bytes, each in either case
(`decode?_of_digits`).
-/

namespace TaxLedger.Hex

/-- Only ASCII capitals have another character as their lower case. -/
theorem toNat_lt_of_toLower {c d : Char} (small : d.toNat < 128) (same : c.toLower = d) :
    c.toNat < 128 := by
  unfold Char.toLower at same
  split at same
  · rename_i capital
    have high : c.toNat ≤ 90 := capital.2
    omega
  · rwa [same]

theorem hexDigit_lt {n : Nat} (small : n < 16) : (Text.hexDigit n).toNat < 128 := by
  revert n
  decide

theorem hexValue?_of_toLower {c : Char} {n : Nat} (small : n < 16)
    (same : c.toLower = Text.hexDigit n) : Text.hexValue? c = some n := by
  have ascii := toNat_lt_of_toLower (hexDigit_lt small) same
  have all : ∀ n < 16, ∀ m < 128, (Char.ofNat m).toLower = Text.hexDigit n →
      Text.hexValue? (Char.ofNat m) = some n := by
    decide +kernel
  have own := all n small c.toNat ascii
  rw [Char.ofNat_toNat] at own
  exact own same

theorem decodeChars?_of_digits {cs : List Char} {bytes : List UInt8}
    (digits : cs.map Char.toLower = bytes.flatMap encodeByte) : decodeChars? cs = some bytes := by
  induction bytes generalizing cs with
  | nil =>
    obtain rfl := List.map_eq_nil_iff.mp digits
    rfl
  | cons b bytes ih =>
    obtain ⟨high, cs, rfl, first, digits⟩ := List.map_eq_cons_iff.mp digits
    obtain ⟨low, rest, rfl, second, digits⟩ := List.map_eq_cons_iff.mp digits
    have bound := b.toNat_lt
    have whole : b.toNat / 16 * 16 + b.toNat % 16 = b.toNat := by omega
    rw [decodeChars?, hexValue?_of_toLower (by omega) first, hexValue?_of_toLower (by omega) second,
      ih digits]
    simp only [Option.bind_eq_bind, Option.bind_some, whole, UInt8.ofNat_toNat]
    rfl

theorem decode?_of_digits {text : String} {bytes : List UInt8}
    (digits : text.toList.map Char.toLower = (encode bytes).toList) : decode? text = some bytes := by
  rw [encode, String.toList_ofList] at digits
  exact decodeChars?_of_digits digits

/-- Two digits make a byte. -/
theorem length_of_decodeChars? {cs : List Char} {bytes : List UInt8}
    (read : decodeChars? cs = some bytes) : cs.length = 2 * bytes.length := by
  induction cs using decodeChars?.induct generalizing bytes with
  | case1 =>
    cases read
    rfl
  | case2 high low rest ih =>
    rw [decodeChars?] at read
    obtain ⟨_, _, read⟩ := Option.bind_eq_some_iff.mp read
    obtain ⟨_, _, read⟩ := Option.bind_eq_some_iff.mp read
    obtain ⟨later, known, read⟩ := Option.bind_eq_some_iff.mp read
    cases read
    have own := ih known
    simp only [List.length_cons]
    omega
  | case3 => cases read

end TaxLedger.Hex
