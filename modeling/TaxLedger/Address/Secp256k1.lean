import TaxLedger.Power

/-!
# Points of secp256k1

Public keys are points of the curve `y² = x³ + 7` over a prime field. A point is written in 33 bytes
as the parity of `y` and `x`, or in 65 bytes as `x` and `y`.
-/

namespace TaxLedger.Secp256k1

def fieldPrime : Nat := twoTo 256 - twoTo 32 - 977

/-- `base ^ exponent` modulo the prime, by squaring; `fuel` bounds the bits of the exponent. -/
def powMod : (fuel base exponent : Nat) → Nat
  | 0, _, _ => 1
  | fuel + 1, base, exponent =>
    if exponent = 0 then 1
    else
      let half := powMod fuel (base * base % fieldPrime) (exponent / 2)
      if exponent % 2 = 1 then base * half % fieldPrime else half

def curveRight (x : Nat) : Nat := (x * x % fieldPrime * x + 7) % fieldPrime

/-- Whether some point of the curve has this `x`. -/
def hasPoint (x : Nat) : Bool :=
  let right := curveRight x
  let root := powMod 256 right ((fieldPrime + 1) / 4)
  root * root % fieldPrime == right

def ofBytes (bytes : List UInt8) : Nat := bytes.foldl (fun n b => n * 256 + b.toNat) 0

/-- The short form of a point: 2 or 3 for an even or odd `y`, then the bytes of `x`. -/
def compress? : List UInt8 → Option (List UInt8)
  | [] => none
  | tag :: rest =>
    if rest.length = 32 then
      let x := ofBytes rest
      if (tag = 2 || tag = 3) && x < fieldPrime && hasPoint x then some (tag :: rest) else none
    else if rest.length = 64 then
      let x := ofBytes (rest.take 32)
      let y := ofBytes (rest.drop 32)
      let parity := y % 2
      if (tag = 4 || (tag = 6 && parity = 0) || (tag = 7 && parity = 1)) && x < fieldPrime &&
          y < fieldPrime && y * y % fieldPrime = curveRight x then
        some ((if parity = 1 then 3 else 2) :: rest.take 32)
      else none
    else none

end TaxLedger.Secp256k1
