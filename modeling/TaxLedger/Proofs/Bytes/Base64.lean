import TaxLedger.Bytes.Base64

/-!
Bytes in base64 and back. What is written for bytes is read as those bytes (`decode?_encode`).
-/

namespace TaxLedger.Base64

/-! ### Symbols -/

theorem symbolValue?_symbol {n : Nat} (small : n < 64) : symbolValue? (symbol n) = some n := by
  revert n
  decide

theorem symbol_ne_padding {n : Nat} (small : n < 64) : symbol n ≠ '=' := by
  revert n
  decide

/-! ### Bytes over two symbols -/

section
variable (b : UInt8) {before : Nat} (after : Nat)

/-- Six bits in the first symbol and two in the second. -/
theorem byte_of_six_two (small : after < 16) :
    UInt8.ofNat (b.toNat / 4 * 4 + (b.toNat % 4 * 16 + after) / 16) = b := by
  have parts : b.toNat / 4 * 4 + (b.toNat % 4 * 16 + after) / 16 = b.toNat := by omega
  rw [parts, UInt8.ofNat_toNat]

/-- Four bits in each symbol. -/
theorem byte_of_four_four (small : after < 4) :
    UInt8.ofNat ((before * 16 + b.toNat / 16) % 16 * 16 + (b.toNat % 16 * 4 + after) / 4) = b := by
  have bound := b.toNat_lt
  have parts : (before * 16 + b.toNat / 16) % 16 * 16 + (b.toNat % 16 * 4 + after) / 4 =
      b.toNat := by
    omega
  rw [parts, UInt8.ofNat_toNat]

/-- Two bits in the first symbol and six in the second. -/
theorem byte_of_two_six :
    UInt8.ofNat ((before * 4 + b.toNat / 64) % 4 * 64 + b.toNat % 64) = b := by
  have bound := b.toNat_lt
  have parts : (before * 4 + b.toNat / 64) % 4 * 64 + b.toNat % 64 = b.toNat := by omega
  rw [parts, UInt8.ofNat_toNat]

end

/-! ### Groups -/

section
variable {x y z w : Nat} (first : x < 64) (second : y < 64) (third : z < 64) (fourth : w < 64)
include first second

theorem decodeLast?_two (even : y % 16 = 0) :
    decodeLast? (symbol x) (symbol y) '=' '=' = some [UInt8.ofNat (x * 4 + y / 16)] := by
  rw [decodeLast?, symbolValue?_symbol first, symbolValue?_symbol second]
  simp only [Option.bind_eq_bind, Option.bind_some, even, if_true, decide_true, Bool.and_true]

include third

theorem decodeLast?_three (even : z % 4 = 0) :
    decodeLast? (symbol x) (symbol y) (symbol z) '=' =
      some [UInt8.ofNat (x * 4 + y / 16), UInt8.ofNat (y % 16 * 16 + z / 4)] := by
  rw [decodeLast?, symbolValue?_symbol first, symbolValue?_symbol second]
  simp only [Option.bind_eq_bind, Option.bind_some, if_neg (symbol_ne_padding third),
    symbolValue?_symbol third, even, if_true]

include fourth

theorem decodeLast?_four :
    decodeLast? (symbol x) (symbol y) (symbol z) (symbol w) =
      some [UInt8.ofNat (x * 4 + y / 16), UInt8.ofNat (y % 16 * 16 + z / 4),
        UInt8.ofNat (z % 4 * 64 + w)] := by
  rw [decodeLast?, symbolValue?_symbol first, symbolValue?_symbol second]
  simp only [Option.bind_eq_bind, Option.bind_some, if_neg (symbol_ne_padding third),
    symbolValue?_symbol third, if_neg (symbol_ne_padding fourth), symbolValue?_symbol fourth]

/-- Four symbols are read alike at the end of a text and before other groups. -/
theorem decodeChars?_four (rest : List Char) :
    decodeChars? (symbol x :: symbol y :: symbol z :: symbol w :: rest) =
      (decodeChars? rest).map fun bytes =>
        UInt8.ofNat (x * 4 + y / 16) :: UInt8.ofNat (y % 16 * 16 + z / 4) ::
          UInt8.ofNat (z % 4 * 64 + w) :: bytes := by
  cases rest with
  | nil => exact decodeLast?_four first second third fourth
  | cons c rest =>
    rw [decodeChars?, symbolValue?_symbol first, symbolValue?_symbol second,
      symbolValue?_symbol third, symbolValue?_symbol fourth]
    · cases decodeChars? (c :: rest) <;> rfl
    · simp

end

theorem decodeChars?_encodeChars (bytes : List UInt8) :
    decodeChars? (encodeChars bytes) = some bytes := by
  induction bytes using encodeChars.induct with
  | case1 => rfl
  | case2 a =>
    have bound := a.toNat_lt
    rw [encodeChars, decodeChars?, decodeLast?_two (by omega) (by omega) (by omega)]
    exact congrArg (some [·]) (byte_of_six_two a 0 (by decide))
  | case3 a b =>
    have bounds := And.intro a.toNat_lt b.toNat_lt
    rw [encodeChars, decodeChars?, decodeLast?_three (by omega) (by omega) (by omega) (by omega),
      byte_of_six_two a _ (by omega)]
    exact congrArg (some [a, ·]) (byte_of_four_four b 0 (by decide))
  | case4 a b c rest ih =>
    have bounds := And.intro a.toNat_lt (And.intro b.toNat_lt c.toNat_lt)
    rw [encodeChars, decodeChars?_four (by omega) (by omega) (by omega) (by omega), ih,
      byte_of_six_two a _ (by omega), byte_of_four_four b _ (by omega), byte_of_two_six c]
    rfl

/-- Four symbols for every three bytes that are begun. -/
theorem length_encodeChars (bytes : List UInt8) :
    (encodeChars bytes).length = (bytes.length + 2) / 3 * 4 := by
  induction bytes using encodeChars.induct with
  | case1 => rfl
  | case2 => simp [encodeChars]
  | case3 => simp [encodeChars]
  | case4 a b c rest ih =>
    simp only [encodeChars, List.length_cons, ih]
    omega

theorem decode?_encode (bytes : List UInt8) : decode? (encode bytes) = some bytes := by
  rw [decode?, encode, String.toList_ofList, decodeChars?_encodeChars]

end TaxLedger.Base64
