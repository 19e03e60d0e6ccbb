import TaxLedger.Json.Parse

/-!
# UTF-8

Bytes as text, and JSON documents in bytes.
-/

namespace TaxLedger.Utf8

def encode (s : String) : List UInt8 := s.toUTF8.toList

def continuation? (b : UInt8) : Option Nat :=
  if 0x80 ≤ b.toNat && b.toNat < 0xc0 then some (b.toNat - 0x80) else none

/-- The character at the front and the number of its bytes. -/
def first? : List UInt8 → Option (Char × Nat)
  | [] => none
  | b :: rest =>
    let n := b.toNat
    if n < 0x80 then some (Char.ofNat n, 1)
    else if 0xc2 ≤ n && n < 0xe0 then
      match rest with
      | b1 :: _ => (continuation? b1).map fun x => (Char.ofNat ((n - 0xc0) * 0x40 + x), 2)
      | _ => none
    else if 0xe0 ≤ n && n < 0xf0 then
      match rest with
      | b1 :: b2 :: _ => do
        let x ← continuation? b1
        let y ← continuation? b2
        let point := ((n - 0xe0) * 0x40 + x) * 0x40 + y
        if point < 0x800 || (0xd800 ≤ point && point < 0xe000) then none
        else some (Char.ofNat point, 3)
      | _ => none
    else if 0xf0 ≤ n && n < 0xf5 then
      match rest with
      | b1 :: b2 :: b3 :: _ => do
        let x ← continuation? b1
        let y ← continuation? b2
        let z ← continuation? b3
        let point := (((n - 0xf0) * 0x40 + x) * 0x40 + y) * 0x40 + z
        if point < 0x10000 || 0x110000 ≤ point then none else some (Char.ofNat point, 4)
      | _ => none
    else none

/-- The characters of the bytes, where `none` stands for a byte that belongs to none. `skip` bytes
belong to the character before. -/
def charsFrom : (skip : Nat) → List UInt8 → List (Option Char)
  | _, [] => []
  | skip + 1, _ :: rest => charsFrom skip rest
  | 0, b :: rest =>
    match first? (b :: rest) with
    | some (c, n) => some c :: charsFrom (n - 1) rest
    | none => none :: charsFrom 0 rest

def decode? (bytes : List UInt8) : Option String :=
  ((charsFrom 0 bytes).mapM id).map String.ofList

/-- The characters of a document, where a byte that belongs to none becomes an escape for half of a
surrogate pair, which can be skipped in a text and not read. `escaped` tells that a backslash comes
before, which allows no such byte. -/
def documentChars (escaped : Bool) : List (Option Char) → List Char
  | [] => []
  | some c :: rest => c :: documentChars (!escaped && c == '\\') rest
  | none :: rest =>
    (if escaped then ['x'] else ['\\', 'u', 'd', '8', '0', '0']) ++ documentChars false rest

def parseJson? (bytes : List UInt8) : Option Json :=
  Json.parse? (String.ofList (documentChars false (charsFrom 0 bytes)))

end TaxLedger.Utf8
