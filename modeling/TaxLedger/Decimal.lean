import TaxLedger.Power
import TaxLedger.Text.Integer

/-!
# Decimal numbers

An exact decimal number is an integer coefficient and a scale, the number of its digits behind the
point. This module reads and prints decimals, and calculates with them: quotients are computed to a
hundred significant digits, all else is exact.
-/

namespace TaxLedger

/-- The number `coefficient · 10 ^ (-scale)`. -/
structure Decimal where
  coefficient : Int
  scale : Int
  deriving DecidableEq, Repr, Inhabited

namespace Decimal

def ofInt (n : Int) : Decimal := ⟨n, 0⟩

instance : Coe Int Decimal := ⟨ofInt⟩

instance (n : Nat) : OfNat Decimal n := ⟨ofInt n⟩

def digitCount (n : Nat) : Nat := (toString n).length

def isPositive (d : Decimal) : Bool := 0 < d.coefficient

def isNegative (d : Decimal) : Bool := d.coefficient < 0

/-- The same number with `scale` digits behind the point; what does not fit is cut off. -/
def withScale (d : Decimal) (scale : Int) : Decimal :=
  if d.coefficient = 0 then ⟨0, scale⟩
  else if d.scale ≤ scale then ⟨d.coefficient * tenTo (scale - d.scale).toNat, scale⟩
  else ⟨d.coefficient.tdiv (tenTo (d.scale - scale).toNat), scale⟩

/-! ### Reading -/

/-- The number written by digits and underscores, of which the first is a digit. -/
def magnitude? (cs : List Char) : Option Nat :=
  match cs with
  | [] => none
  | '_' :: _ => none
  | _ =>
    if cs.all fun c => Text.isDigit c || c == '_' then
      some (Text.ofDigitsFrom 0 (cs.filter (· != '_')))
    else none

def coefficient? : List Char → Option Int
  | '-' :: cs => (magnitude? cs).map fun n => -(n : Int)
  | '+' :: cs => (magnitude? cs).map Int.ofNat
  | cs => (magnitude? cs).map Int.ofNat

/-- The digits of a mantissa without its point, and how many of them stand behind the point.
A point at the very end counts for nothing. -/
def splitPoint (cs : List Char) : List Char × Nat :=
  let lead := cs.takeWhile (· != '.')
  match cs.dropWhile (· != '.') with
  | [] => (cs, 0)
  | _ :: trail => (lead ++ trail, (trail.filter (· != '_')).length)

def exponent? : List Char → Option Int
  | [] => some 0
  | _ :: cs => (Text.intOfChars? cs).filter isInt128

def isExponentMark (c : Char) : Bool := c == 'e' || c == 'E'

/-- The decimal that `cs` writes: a mantissa and, behind a letter e, an exponent. The scale has to
fit in 64 bits. -/
def ofChars? (cs : List Char) : Option Decimal := do
  let mantissa := cs.takeWhile fun c => !isExponentMark c
  let exponent ← exponent? (cs.dropWhile fun c => !isExponentMark c)
  let (digits, behind) := splitPoint mantissa
  let coefficient ← coefficient? digits
  let scale := (behind : Int) - exponent
  if isInt64 scale then some ⟨coefficient, scale⟩ else none

def ofString? (s : String) : Option Decimal := ofChars? s.toList

/-! ### Printing -/

def scientificDigits : List Char → List Char
  | [] => []
  | [d] => [d]
  | d :: ds => d :: '.' :: ds

/-- The digits with a point before the last `scale` of them; zeros are put in front when there are
too few. -/
def placePoint (digits : List Char) (scale : Nat) : List Char :=
  if scale = 0 then digits
  else
    let padded := List.replicate (scale + 1 - digits.length) '0' ++ digits
    padded.take (padded.length - scale) ++ '.' :: padded.drop (padded.length - scale)

/-- The absolute value in print. More than five zeros behind the point call for the scientific
form, more than fifteen zeros at the end for an exponent; all else is written out. -/
def renderMagnitude (n : Nat) (scale : Int) : List Char :=
  let digits := (toString n).toList
  if n = 0 then ['0']
  else if scale > 0 then
    if scale - digits.length > 5 then
      scientificDigits digits ++ ['E', '-'] ++
        (toString (scale - (digits.length : Int) + 1).toNat).toList
    else placePoint digits scale.toNat
  else if scale < -15 then digits ++ ['e', '+'] ++ (toString (-scale).toNat).toList
  else digits ++ List.replicate (-scale).toNat '0'

def render (d : Decimal) : String :=
  let magnitude := renderMagnitude d.coefficient.natAbs d.scale
  String.ofList (if d.coefficient < 0 then '-' :: magnitude else magnitude)

instance : ToString Decimal := ⟨render⟩

/-! ### Arithmetic -/

/-- Sums and differences have as many digits behind the point as the longer of the two. -/
def add (a b : Decimal) : Decimal :=
  let scale := max a.scale b.scale
  ⟨(a.withScale scale).coefficient + (b.withScale scale).coefficient, scale⟩

instance : Add Decimal := ⟨add⟩

def sub (a b : Decimal) : Decimal :=
  let scale := max a.scale b.scale
  ⟨(a.withScale scale).coefficient - (b.withScale scale).coefficient, scale⟩

instance : Sub Decimal := ⟨sub⟩

def mul (a b : Decimal) : Decimal := ⟨a.coefficient * b.coefficient, a.scale + b.scale⟩

instance : Mul Decimal := ⟨mul⟩

def stripZeros : (fuel : Nat) → Decimal → Decimal
  | 0, d => d
  | fuel + 1, d =>
    if d.coefficient % 10 = 0 then stripZeros fuel ⟨d.coefficient / 10, d.scale - 1⟩ else d

/-- The same number with no zero at the end of the coefficient. -/
def normalized (d : Decimal) : Decimal :=
  if d.coefficient = 0 then ⟨0, 0⟩ else stripZeros (digitCount d.coefficient.natAbs) d

/-- Significant digits that a quotient keeps. -/
def precision : Nat := 100

def scaleUp (den : Nat) : (fuel num : Nat) → Nat × Nat
  | 0, num => (num, 0)
  | fuel + 1, num =>
    if num < den then
      let (scaled, steps) := scaleUp den fuel (num * 10)
      (scaled, steps + 1)
    else (num, 0)

/-- Appends digits of `remainder / den` to `quotient` until `places` are written or the remainder is
zero. Gives the quotient, the remainder that is left and the number of digits written. -/
def longDivide (den : Nat) : (places quotient remainder : Nat) → Nat × Nat × Nat
  | 0, quotient, remainder => (quotient, remainder, 0)
  | places + 1, quotient, remainder =>
    if remainder = 0 then (quotient, 0, 0)
    else
      let (q, r, written) :=
        longDivide den places (quotient * 10 + remainder * 10 / den) (remainder * 10 % den)
      (q, r, written + 1)

/-- Quotient of two positive integers and the scale gained. It has `precision` digits or more, unless
it comes out even before; a remainder rounds the last digit half up. -/
def divideNat (num den : Nat) : Nat × Nat :=
  let (scaled, shift) := scaleUp den (digitCount den) num
  let quotient := scaled / den
  let (q, r, written) :=
    longDivide den (precision - digitCount quotient) quotient (scaled % den)
  (if r * 10 / den ≥ 5 then q + 1 else q, shift + written)

def divide (a b : Decimal) : Decimal :=
  if a.coefficient = 0 || b.coefficient = tenTo b.scale.toNat && 0 ≤ b.scale then a
  else if a.coefficient = b.coefficient then ⟨1, a.scale - b.scale⟩
  else
    let (q, gained) := divideNat a.coefficient.natAbs b.coefficient.natAbs
    let signed : Int := if (a.coefficient < 0) = (b.coefficient < 0) then q else -(q : Int)
    ⟨signed, a.scale - b.scale + gained⟩

end Decimal

end TaxLedger
