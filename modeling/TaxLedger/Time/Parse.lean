import TaxLedger.Power
import TaxLedger.Text.Blank
import TaxLedger.Time.Basic

/-!
# Reading points in time

Date, time of day and offset in the form of RFC 3339, with the liberties that a node may take: blanks
between the parts, a blank or a small letter for the T, and `UTC` for the offset.
-/

namespace TaxLedger.Timestamp

abbrev Rest := List Char

def skipBlanks (cs : Rest) : Rest := cs.dropWhile Text.isBlank

/-- One to `width` digits behind blanks, whose number has to lie between `lo` and `hi`. -/
def number? (width lo hi : Nat) (cs : Rest) : Option (Nat × Rest) :=
  let cs := skipBlanks cs
  let digits := (cs.take width).takeWhile Text.isDigit
  let n := Text.ofDigitsFrom 0 digits
  if digits.isEmpty || n < lo || hi < n then none else some (n, cs.drop digits.length)

/-- A year of at most four digits, or with a sign and any number of digits. -/
def year? (cs : Rest) : Option (Int × Rest) :=
  match skipBlanks cs with
  | '-' :: rest => (signed rest).map fun (n, rest) => (-(n : Int), rest)
  | '+' :: rest => (signed rest).map fun (n, rest) => ((n : Int), rest)
  | rest => (number? 4 0 9999 rest).map fun (n, rest) => ((n : Int), rest)
where
  signed (cs : Rest) : Option (Nat × Rest) :=
    let digits := cs.takeWhile Text.isDigit
    let n := Text.ofDigitsFrom 0 digits
    if digits.isEmpty || 262142 < n then none else some (n, cs.drop digits.length)

def mark? (c : Char) (cs : Rest) : Option Rest :=
  match skipBlanks cs with
  | x :: rest => if x = c then some rest else none
  | [] => none

/-- The fraction behind a point in nanoseconds; digits after the ninth are dropped. -/
def fraction? : Rest → Option (Nat × Rest)
  | '.' :: cs =>
    let digits := cs.takeWhile Text.isDigit
    if digits.isEmpty then none
    else
      let kept := digits.take 9
      some (Text.ofDigitsFrom 0 kept * tenTo (9 - kept.length), cs.dropWhile Text.isDigit)
  | cs => some (0, cs)

/-- The offset behind a sign, in seconds: two digits of hours and two of minutes, with colons or
blanks between them, and less than a day in all. -/
def offsetOf? (negative : Bool) : Rest → Option (Int × Rest)
  | h1 :: h2 :: rest =>
    if !(Text.isDigit h1 && Text.isDigit h2) then none
    else
      match rest.dropWhile fun c => c == ':' || Text.isBlank c with
      | m1 :: m2 :: rest =>
        if !(Text.isDigit m1 && Text.isDigit m2) || '5' < m1 then none
        else
          let hours := Text.digitValue h1 * 10 + Text.digitValue h2
          let minutes := Text.digitValue m1 * 10 + Text.digitValue m2
          let seconds : Int := (hours * 3600 + minutes * 60 : Nat)
          if 86400 ≤ seconds then none
          else some (if negative then -seconds else seconds, rest)
      | _ => none
  | _ => none

def offset? (cs : Rest) : Option (Int × Rest) :=
  match cs with
  | c1 :: c2 :: c3 :: rest =>
    if c1.toUpper = 'U' && c2.toUpper = 'T' && c3.toUpper = 'C' then some (0, rest)
    else simple cs
  | _ => simple cs
where
  simple : Rest → Option (Int × Rest)
    | c :: rest =>
      if c = 'Z' || c = 'z' then some (0, rest)
      else if c = '+' then offsetOf? false rest
      else if c = '-' || c.toNat = 0x2212 then offsetOf? true rest
      else none
    | [] => none

/-- Reads a whole text as a point in time. The sixtieth second of any minute is a leap second. -/
def parse? (s : String) : Option Timestamp := do
  let (year, cs) ← year? s.toList
  let cs ← mark? '-' cs
  let (month, cs) ← number? 2 1 12 cs
  let cs ← mark? '-' cs
  let (day, cs) ← number? 2 1 31 cs
  let cs ← match cs with
    | c :: rest => if c = 'T' || c = 't' || c = ' ' then some rest else none
    | [] => none
  let (hour, cs) ← number? 2 0 23 cs
  let cs ← mark? ':' cs
  let (minute, cs) ← number? 2 0 59 cs
  let cs ← mark? ':' cs
  let (second, cs) ← number? 2 0 60 cs
  let (nanos, cs) ← fraction? cs
  let (offset, cs) ← offset? (skipBlanks cs)
  let date : CalendarDay := ⟨year, month, day⟩
  if !(skipBlanks cs).isEmpty || !date.isValid then none
  else
    let leap := second == 60
    let inDay : Int := (hour * 3600 + minute * 60 + (if leap then 59 else second) : Nat)
    some ⟨date.toDays * 86400 + inDay - offset, if leap then nanosPerSecond + nanos else nanos⟩

end TaxLedger.Timestamp
