import TaxLedger.Text.Integer

/-!
# Base sixteen

Bytes as pairs of digits in base sixteen.
-/

namespace TaxLedger.Hex

/-- The bytes that pairs of digits of either case write. -/
def decodeChars? : List Char → Option (List UInt8)
  | [] => some []
  | high :: low :: rest => do
    let h ← Text.hexValue? high
    let l ← Text.hexValue? low
    let bytes ← decodeChars? rest
    return UInt8.ofNat (h * 16 + l) :: bytes
  | [_] => none

def decode? (s : String) : Option (List UInt8) := decodeChars? s.toList

def encodeByte (b : UInt8) : List Char :=
  [Text.hexDigit (b.toNat / 16), Text.hexDigit (b.toNat % 16)]

def encode (bytes : List UInt8) : String := String.ofList (bytes.flatMap encodeByte)

def encodeUpper (bytes : List UInt8) : String :=
  String.ofList ((bytes.flatMap encodeByte).map Char.toUpper)

end TaxLedger.Hex
