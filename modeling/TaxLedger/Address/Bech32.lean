import TaxLedger.Bytes.Utf8
import TaxLedger.Power

/-!
# Bech32

Texts with a readable part in front, a separator, and data in base 32 that ends in a checksum of six
symbols. Encoding writes the older checksum; reading accepts both.
-/

namespace TaxLedger.Bech32

def alphabet : List Char := "qpzry9x8gf2tvdw0s3jn54khce6mua7l".toList

def value? (c : Char) : Option Nat := alphabet.idxOf? c.toLower

def symbol (n : Nat) : Char := alphabet.getD n 'q'

/-- The constant that a valid text leaves, for each of the two checksums. -/
inductive Variant where
  | bech32
  | bech32m
  deriving DecidableEq, Repr

def Variant.residue : Variant → Nat
  | .bech32 => 1
  | .bech32m => 0x2bc830a3

def generators : List Nat := [0x3b6a57b2, 0x26508e6d, 0x1ea119fa, 0x3d4233dd, 0x2a1462b3]

/-- One step of the checksum: shifts the value `v` in. -/
def polyStep (chk v : Nat) : Nat :=
  let top := chk >>> 25
  let shifted := ((chk &&& 0x1ffffff) <<< 5) ^^^ v
  (generators.zipIdx).foldl
    (fun acc (g, i) => if (top >>> i) &&& 1 = 1 then acc ^^^ g else acc) shifted

def polymod (values : List Nat) : Nat := values.foldl polyStep 1

def expandPrefix (readable : List Char) : List Nat :=
  let lower := readable.map fun c => c.toLower.toNat
  lower.map (· / 32) ++ 0 :: lower.map (· % 32)

def checksum (variant : Variant) (readable : List Char) (data : List Nat) : List Nat :=
  let rest := polymod (expandPrefix readable ++ data ++ List.replicate 6 0) ^^^ variant.residue
  [25, 20, 15, 10, 5, 0].map fun shift => rest / twoTo shift % 32

/-- Whether the data, which ends in the checksum, fits the readable part. -/
def verify (variant : Variant) (readable : List Char) (data : List Nat) : Bool :=
  polymod (expandPrefix readable ++ data) == variant.residue

/-- Regroups bytes into groups of five bits; `bits` of the value `acc` are left over from before.
The last group is filled up with zeros. -/
def regroup (acc bits : Nat) : List UInt8 → List Nat
  | [] => if bits = 0 then [] else [acc * twoTo (5 - bits) % 32]
  | b :: rest =>
    let acc := acc * 256 + b.toNat
    let bits := bits + 8
    if bits < 10 then acc / twoTo (bits - 5) % 32 :: regroup (acc % twoTo (bits - 5)) (bits - 5) rest
    else
      acc / twoTo (bits - 5) % 32 :: acc / twoTo (bits - 10) % 32 ::
        regroup (acc % twoTo (bits - 10)) (bits - 10) rest

def toValues (bytes : List UInt8) : List Nat := regroup 0 0 bytes

/-- The bytes that values of five bits hold; `bits` of the value `acc` are left over from before.
Bits that fill no byte are dropped. -/
def ungroup (acc bits : Nat) : List Nat → List UInt8
  | [] => []
  | v :: rest =>
    let acc := acc * 32 + v
    let bits := bits + 5
    if bits < 8 then ungroup acc bits rest
    else UInt8.ofNat (acc / twoTo (bits - 8)) :: ungroup (acc % twoTo (bits - 8)) (bits - 8) rest

def ofValues (values : List Nat) : List UInt8 := ungroup 0 0 values

def isUpper (c : Char) : Bool := 'A' ≤ c && c ≤ 'Z'

def isLower (c : Char) : Bool := 'a' ≤ c && c ≤ 'z'

def isMixedCase (cs : List Char) : Bool := cs.any isUpper && cs.any isLower

/-- A readable part: 1 to 83 visible ASCII characters without mixed case. -/
def isReadablePart (cs : List Char) : Bool :=
  !cs.isEmpty && cs.length ≤ 83 && cs.all (fun c => 33 ≤ c.toNat && c.toNat ≤ 126) &&
    !isMixedCase cs

def maxLength : Nat := 1023

/-- The text for a readable part and bytes, in lower case; `none` when it gets too long. -/
def encode? (readable : List Char) (bytes : List UInt8) : Option String :=
  let lower := readable.map Char.toLower
  let data := toValues bytes
  if maxLength < lower.length + 1 + data.length + 6 then none
  else some (String.ofList
    (lower ++ '1' :: (data ++ checksum .bech32 lower data).map symbol))

def splitSeparator? : List Char → Option (List Char × List Char)
  | [] => none
  | c :: cs =>
    match splitSeparator? cs with
    | some (front, data) => some (c :: front, data)
    | none => if c = '1' then some ([], cs) else none

def decode? (s : String) : Option (List Char × List UInt8) := do
  let cs := s.toList
  let (readable, symbols) ← splitSeparator? cs
  let values ← symbols.mapM value?
  if !isMixedCase cs && isReadablePart readable && cs.length ≤ maxLength && 6 ≤ values.length &&
      (verify .bech32m readable values || verify .bech32 readable values) then
    some (readable, ofValues (values.take (values.length - 6)))
  else none

end TaxLedger.Bech32
