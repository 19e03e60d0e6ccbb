import TaxLedger.Decimal
import TaxLedger.Denom.Catalog
import TaxLedger.Denom.Rows

/-!
# Conversion to display units

An amount in base units is shown in the largest unit of its denomination. Asset lists go before the
rows of the store; pool shares have a fixed number of places. The value is exact.
-/

namespace TaxLedger.Denom

structure Known where
  catalog : Catalog := []
  rows : Rows := {}
  deriving Inhabited

structure NotFound where
  denom : String
  deriving DecidableEq, Repr

def NotFound.message (e : NotFound) : String := "denom " ++ e.denom ++ " not found"

/-- How a denomination is shown: base units are divided by ten to the `exponent`. -/
structure Display where
  exponent : Int
  symbol : String
  deriving DecidableEq, Repr, Inhabited

structure Shown where
  value : Decimal
  symbol : String
  deriving DecidableEq, Repr, Inhabited

def Display.apply (d : Display) (amount : Decimal) : Shown :=
  ⟨(⟨amount.coefficient, amount.scale + d.exponent⟩ : Decimal).normalized, d.symbol⟩

def poolShareStart : String := "gamm/pool/"

def poolSharePlaces : Int := 18

def transferStart : String := "transfer/"

/-- The symbol; the name of the largest unit where there is none. -/
def symbolOr (symbol largest : String) : String :=
  if symbol = "" || symbol = "UNKNOWN" then largest else symbol

/-- The name that is looked up: behind a transfer path only the part after the last slash. -/
def lookupName (denom : String) : String :=
  if denom.startsWith transferStart then
    String.ofList ((denom.toList.reverse.takeWhile (· != '/')).reverse)
  else denom

def Asset.display (a : Asset) (name : String) : Display :=
  let highest := a.highest?
  let exponent (u : Option AssetUnit) : Int := (u.map fun u => (u.exponent : Int)).getD 0
  ⟨exponent highest - exponent a.lowest?, symbolOr a.symbol ((highest.map (·.denom)).getD name)⟩

def Rows.display? (r : Rows) (name : String) : Option Display := do
  let (d, u) ← r.resolve? name
  let highest ← r.displayUnit? d
  return ⟨highest.exponent - u.exponent, symbolOr (d.symbol.getD "") highest.name⟩

namespace Known

def display? (k : Known) (denom : String) : Option Display :=
  if denom.startsWith poolShareStart then some ⟨poolSharePlaces, denom⟩
  else
    let name := lookupName denom
    match k.catalog.find? name with
    | some a => some (a.display name)
    | none => k.rows.display? name

def convert (k : Known) (amount : Decimal) (denom : String) : Except NotFound Shown :=
  match k.display? denom with
  | some d => .ok (d.apply amount)
  | none => .error ⟨denom⟩

/-- The amount in its display unit, or as it is where none is known. -/
def convertOrRaw (k : Known) (amount : Decimal) (denom : String) : Shown :=
  match k.convert amount denom with
  | .ok shown => shown
  | .error _ => ⟨amount, denom⟩

end Known

end TaxLedger.Denom
