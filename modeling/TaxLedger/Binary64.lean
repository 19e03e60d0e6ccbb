import TaxLedger.Power
import TaxLedger.Text.Integer

/-!
# Double precision numbers

Binary floating point numbers of 64 bits as sign, mantissa and exponent, rounded from exact ratios
to the nearest number with ties to even, and the shortest decimal digits that read back.
-/

namespace TaxLedger

def Binary64.Fits (mantissa : Nat) (exponent : Int) : Prop :=
  mantissa < twoTo 53 ∧ -1074 ≤ exponent ∧ exponent ≤ 971

instance (mantissa : Nat) (exponent : Int) : Decidable (Binary64.Fits mantissa exponent) :=
  inferInstanceAs (Decidable (_ ∧ _ ∧ _))

/-- A number of double precision. A finite one is `mantissa · 2 ^ exponent`, where the mantissa has
53 bits unless the exponent is the least one, -1074. -/
inductive Binary64 where
  | finite (negative : Bool) (mantissa : Nat) (exponent : Int)
      (fits : Binary64.Fits mantissa exponent)
  | infinite (negative : Bool)
  | nan
  deriving DecidableEq, Repr, Inhabited

namespace Binary64

def zero (negative : Bool) : Binary64 := .finite negative 0 (-1074) (by decide)

/-- `num / den` rounded to an integer, a half to the even neighbour. -/
def roundHalfEven (num den : Nat) : Nat :=
  let q := num / den
  let r := num % den
  if 2 * r > den || (2 * r == den && q % 2 == 1) then q + 1 else q

def scaleRatio (num den : Nat) (e : Int) : Nat × Nat :=
  if 0 ≤ e then (num * twoTo e.toNat, den) else (num, den * twoTo (-e).toNat)

/-- The number nearest to the ratio `num / den`, where `den` is positive. -/
def ofRatio (negative : Bool) (num den : Nat) : Binary64 :=
  if num = 0 then zero negative
  else
    let low : Int := max ((num.log2 : Int) - den.log2 - 53) (-1074)
    let scaled (e : Int) := scaleRatio num den (-e)
    let e := if (scaled low).1 / (scaled low).2 ≥ twoTo 53 then low + 1 else low
    let m := roundHalfEven (scaled e).1 (scaled e).2
    let (m, e) := if m = twoTo 53 then (twoTo 52, e + 1) else (m, e)
    if fits : Fits m e then .finite negative m e fits else .infinite negative

def ofScientific (negative : Bool) (digits : Nat) (exponent : Int) : Binary64 :=
  let length : Int := (toString digits).length
  if digits = 0 then zero negative
  else if exponent + length > 400 then .infinite negative
  else if exponent + length < -400 then zero negative
  else if 0 ≤ exponent then ofRatio negative (digits * tenTo exponent.toNat) 1
  else ofRatio negative digits (tenTo (-exponent).toNat)

def ofInt (n : Int) : Binary64 := ofRatio (n < 0) n.natAbs 1

/-- The absolute value as an exact ratio; zero for what is not finite. -/
def ratio : Binary64 → Nat × Nat
  | .finite _ m e _ => scaleRatio m 1 e
  | _ => (0, 1)

def isNegative : Binary64 → Bool
  | .finite negative .. => negative
  | .infinite negative => negative
  | .nan => false

def isFinite : Binary64 → Bool
  | .finite .. => true
  | _ => false

def isZero : Binary64 → Bool
  | .finite _ m .. => m == 0
  | _ => false

def mul (a b : Binary64) : Binary64 :=
  ofRatio (a.isNegative != b.isNegative) (a.ratio.1 * b.ratio.1) (a.ratio.2 * b.ratio.2)

def div (a b : Binary64) : Binary64 :=
  ofRatio (a.isNegative != b.isNegative) (a.ratio.1 * b.ratio.2) (a.ratio.2 * b.ratio.1)

def magnitudeGe (a b : Binary64) : Bool := b.ratio.1 * a.ratio.2 ≤ a.ratio.1 * b.ratio.2

/-! ### Shortest digits -/

/-- The decimal exponent of the leading digit of the positive ratio `num / den`. -/
def leadingExponent (num den : Nat) : Int :=
  if den ≤ num then ((toString (num / den)).length : Int) - 1
  else
    let length := (toString (den / num)).length
    if den ≤ num * tenTo (length - 1) then -((length : Int) - 1) else -(length : Int)

structure Digits where
  digits : Nat
  exponent : Int
  deriving DecidableEq, Repr, Inhabited

def overPowerOfTen (num den : Nat) (k : Int) : Nat × Nat :=
  if 0 ≤ k then (num, den * tenTo k.toNat) else (num * tenTo (-k).toNat, den)

/-- Tries the decimal grids from coarse to fine. `low`, `value` and `high` are numerators over four
units of the number's own grid, `unit` the ratio of that quarter; the first grid with a point between
`low` and `high` gives the digits, of two points the nearer one. -/
def searchDigits (low value high : Nat) (closed : Bool) (unit : Nat × Nat) (lead : Int) :
    (places count : Nat) → Digits
  | 0, count => ⟨0, lead - count⟩
  | places + 1, count =>
    let k := lead - count
    let (num, den) := overPowerOfTen unit.1 unit.2 k
    let below := value * num / den
    let above := below + 1
    let fitsBelow := if closed then low * num ≤ below * den else low * num < below * den
    let fitsAbove := if closed then above * den ≤ high * num else above * den < high * num
    let distBelow := value * num - below * den
    let distAbove := above * den - value * num
    if fitsBelow && fitsAbove then
      if distBelow < distAbove || (distBelow == distAbove && below % 2 == 0) then ⟨below, k⟩
      else ⟨above, k⟩
    else if fitsBelow then ⟨below, k⟩
    else if fitsAbove then ⟨above, k⟩
    else searchDigits low value high closed unit lead places (count + 1)

def Digits.strip : (fuel : Nat) → Digits → Digits
  | 0, d => d
  | fuel + 1, d =>
    if d.digits != 0 && d.digits % 10 == 0 then strip fuel ⟨d.digits / 10, d.exponent + 1⟩ else d

/-- The fewest decimal digits that read back as the finite positive number `m · 2 ^ e`. -/
def shortest (m : Nat) (e : Int) : Digits :=
  let unit := scaleRatio 1 4 e
  let low := if m = twoTo 52 && e > -1074 then 4 * m - 1 else 4 * m - 2
  let exact := scaleRatio m 1 e
  (searchDigits low (4 * m) (4 * m + 2) (m % 2 == 0) unit (leadingExponent exact.1 exact.2) 17 0).strip 20

def Digits.positional (d : Digits) : List Char :=
  let text := (toString d.digits).toList
  if 0 ≤ d.exponent then text ++ List.replicate d.exponent.toNat '0'
  else
    let behind := (-d.exponent).toNat
    let padded := List.replicate (behind + 1 - text.length) '0' ++ text
    padded.take (padded.length - behind) ++ '.' :: padded.drop (padded.length - behind)

def renderPlain : Binary64 → String
  | .nan => "NaN"
  | .infinite negative => if negative then "-inf" else "inf"
  | .finite negative m e _ =>
    let digits := if m = 0 then ['0'] else (shortest m e).positional
    String.ofList (if negative then '-' :: digits else digits)

/-- The rounding of a finite number to the nearest integer, a half away from zero. -/
def roundHalfAway (x : Binary64) : Int :=
  let (num, den) := x.ratio
  let magnitude : Int := ((2 * num + den) / (2 * den) : Nat)
  if x.isNegative then -magnitude else magnitude

end Binary64

end TaxLedger
