import TaxLedger.Decimal
import TaxLedger.Power
import TaxLedger.Store.Error
import TaxLedger.Time.Basic

/-!
# Columns

What the columns of the store hold: texts of a limited length, whole amounts and points in time to the
microsecond. A value is refused or fitted before it becomes part of a row.
-/

namespace TaxLedger.Store

/-- A text for a column of at most so many characters. -/
structure Cell where
  text : String
  limit : Nat

namespace Cell

def short (text : String) : Cell := ⟨text, 64⟩

def long (text : String) : Cell := ⟨text, 255⟩

def long? (text : Option String) : List Cell := (text.map long).toList

end Cell

def refuseNull (texts : List String) : Except StoreError Unit :=
  if texts.any fun text => text.contains '\x00' then
    .error (.refused "invalid byte sequence for encoding \"UTF8\": 0x00")
  else .ok ()

def fitCells (cells : List Cell) : Except StoreError Unit := do
  refuseNull (cells.map (·.text))
  match cells.find? fun cell => cell.limit < cell.text.length with
  | some cell =>
    .error (.refused ("value too long for type character varying(" ++ toString cell.limit ++ ")"))
  | none => .ok ()

def amountDigits : Nat := 78

def roundedQuotient (n : Int) (d : Nat) : Int :=
  let magnitude := (2 * n.natAbs + d) / (2 * d)
  if n < 0 then -(magnitude : Int) else magnitude

/-- The whole number next to a decimal, a half away from zero. A number that is too large for a column
may be given by any other such number. -/
def nearestWhole (d : Decimal) : Int :=
  if d.coefficient = 0 then 0
  else if d.scale < 0 then d.coefficient * tenTo (min (-d.scale).toNat amountDigits)
  else if Decimal.digitCount d.coefficient.natAbs < d.scale then 0
  else roundedQuotient d.coefficient (tenTo d.scale.toNat)

def fitAmount (d : Decimal) : Except StoreError Decimal :=
  let whole := nearestWhole d
  if whole.natAbs < tenTo amountDigits then .ok (Decimal.ofInt whole)
  else .error (.refused "numeric field overflow")

/-- The start of the year 2000, from which the store counts microseconds. -/
def origin : Timestamp := ⟨946684800, 0⟩

/-- A point in time as a column holds it: microseconds from the origin on, cut off toward it. -/
def fitTime (t : Timestamp) : Timestamp :=
  let nanos := (t.seconds - origin.seconds) * Timestamp.nanosPerSecond + t.nanos
  let micros := nanos.tdiv 1000
  ⟨origin.seconds + micros.fdiv 1000000, (micros.fmod 1000000).toNat * 1000⟩

end TaxLedger.Store
