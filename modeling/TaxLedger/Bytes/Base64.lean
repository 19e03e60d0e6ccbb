/-!
# Base64

The standard alphabet with padding. Each byte string has one written form: padding is required, and
the bits that the last symbol has left over are zero.
-/

namespace TaxLedger.Base64

def symbolValue? (c : Char) : Option Nat :=
  if 'A' ≤ c && c ≤ 'Z' then some (c.toNat - 65)
  else if 'a' ≤ c && c ≤ 'z' then some (c.toNat - 71)
  else if '0' ≤ c && c ≤ '9' then some (c.toNat + 4)
  else if c = '+' then some 62
  else if c = '/' then some 63
  else none

def symbol (n : Nat) : Char :=
  if n < 26 then Char.ofNat (65 + n)
  else if n < 52 then Char.ofNat (71 + n)
  else if n < 62 then Char.ofNat (n - 4)
  else if n = 62 then '+'
  else '/'

/-- The last group: two or three symbols and padding, or four symbols. -/
def decodeLast? (a b c d : Char) : Option (List UInt8) := do
  let x ← symbolValue? a
  let y ← symbolValue? b
  let first := UInt8.ofNat (x * 4 + y / 16)
  if c = '=' then
    if d = '=' && y % 16 = 0 then some [first] else none
  else
    let z ← symbolValue? c
    let second := UInt8.ofNat (y % 16 * 16 + z / 4)
    if d = '=' then
      if z % 4 = 0 then some [first, second] else none
    else
      let w ← symbolValue? d
      some [first, second, UInt8.ofNat (z % 4 * 64 + w)]

def decodeChars? : List Char → Option (List UInt8)
  | [] => some []
  | [a, b, c, d] => decodeLast? a b c d
  | a :: b :: c :: d :: rest => do
    let x ← symbolValue? a
    let y ← symbolValue? b
    let z ← symbolValue? c
    let w ← symbolValue? d
    let bytes ← decodeChars? rest
    return UInt8.ofNat (x * 4 + y / 16) :: UInt8.ofNat (y % 16 * 16 + z / 4) ::
      UInt8.ofNat (z % 4 * 64 + w) :: bytes
  | _ => none

def decode? (s : String) : Option (List UInt8) := decodeChars? s.toList

def encodeChars : List UInt8 → List Char
  | [] => []
  | [a] => [symbol (a.toNat / 4), symbol (a.toNat % 4 * 16), '=', '=']
  | [a, b] =>
    [symbol (a.toNat / 4), symbol (a.toNat % 4 * 16 + b.toNat / 16), symbol (b.toNat % 16 * 4), '=']
  | a :: b :: c :: rest =>
    symbol (a.toNat / 4) :: symbol (a.toNat % 4 * 16 + b.toNat / 16) ::
      symbol (b.toNat % 16 * 4 + c.toNat / 64) :: symbol (c.toNat % 64) :: encodeChars rest

def encode (bytes : List UInt8) : String := String.ofList (encodeChars bytes)

end TaxLedger.Base64
