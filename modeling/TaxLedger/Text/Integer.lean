import TaxLedger.Power

/-!
# Integers in text

Decimal digits, integers with an optional sign that have to lie in a range, and digits in base
sixteen.
-/

namespace TaxLedger.Text

def isDigit (c : Char) : Bool := '0' ≤ c && c ≤ '9'

def digitValue (c : Char) : Nat := c.toNat - 48

def ofDigitsFrom (acc : Nat) (digits : List Char) : Nat :=
  digits.foldl (fun n c => 10 * n + digitValue c) acc

def natOfChars? (cs : List Char) : Option Nat :=
  if !cs.isEmpty && cs.all isDigit then some (ofDigitsFrom 0 cs) else none

def intOfChars? : List Char → Option Int
  | '+' :: cs => (natOfChars? cs).map Int.ofNat
  | '-' :: cs => (natOfChars? cs).map fun n => -(n : Int)
  | cs => (natOfChars? cs).map Int.ofNat

def int? (lo hi : Int) (s : String) : Option Int :=
  (intOfChars? s.toList).filter fun n => lo ≤ n && n ≤ hi

def int64? (s : String) : Option Int := int? int64Min int64Max s

/-- The 64-bit natural number that `s` writes; a minus sign is not allowed. -/
def nat64? (s : String) : Option Nat :=
  match s.toList with
  | '-' :: _ => none
  | _ => (int? 0 nat64Max s).map Int.toNat

def hexValue? (c : Char) : Option Nat :=
  if isDigit c then some (c.toNat - 48)
  else if 'a' ≤ c && c ≤ 'f' then some (c.toNat - 87)
  else if 'A' ≤ c && c ≤ 'F' then some (c.toNat - 55)
  else none

def hexDigit (n : Nat) : Char :=
  if n < 10 then Char.ofNat (48 + n) else Char.ofNat (87 + n)

def padNat (width n : Nat) : String :=
  let digits := toString n
  String.ofList (List.replicate (width - digits.length) '0') ++ digits

end TaxLedger.Text
