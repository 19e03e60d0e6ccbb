/-!
# Denomination rows

Denominations, their units and the aliases of units as rows of the store.
-/

namespace TaxLedger.Denom

structure DenomRow where
  id : Int
  base : String
  name : Option String := none
  symbol : Option String := none
  deriving DecidableEq, Repr, Inhabited

structure UnitRow where
  id : Int
  denomId : Int
  exponent : Int
  name : String
  deriving DecidableEq, Repr, Inhabited

structure AliasRow where
  id : Int
  unitId : Int
  name : String
  deriving DecidableEq, Repr, Inhabited

structure Rows where
  denoms : List DenomRow := []
  units : List UnitRow := []
  aliases : List AliasRow := []
  deriving Repr, Inhabited

def findLast? {α : Type} (p : α → Bool) (items : List α) : Option α := items.reverse.find? p

def firstLeast? {α : Type} (key : α → Int) : List α → Option α
  | [] => none
  | item :: rest => some (rest.foldl (fun best x => if key x < key best then x else best) item)

def lastGreatest? {α : Type} (key : α → Int) : List α → Option α
  | [] => none
  | item :: rest => some (rest.foldl (fun best x => if key x < key best then best else x) item)

namespace Rows

def denom? (r : Rows) (base : String) : Option DenomRow := findLast? (·.base == base) r.denoms

def unitsOf (r : Rows) (d : DenomRow) : List UnitRow := r.units.filter (·.denomId == d.id)

def unitOf? (r : Rows) (a : AliasRow) : Option UnitRow := findLast? (·.id == a.unitId) r.units

/-- The unit with that name; failing that, the unit with that alias. -/
def unit? (r : Rows) (name : String) : Option UnitRow :=
  (findLast? (·.name == name) r.units).or
    ((r.aliases.filter (·.name == name)).findSome? r.unitOf?)

/-- The unit in which amounts of a denomination are kept: the one named as the base, or the smallest. -/
def baseUnit? (r : Rows) (d : DenomRow) : Option UnitRow :=
  ((r.unitsOf d).find? (·.name == d.base)).or (firstLeast? (·.exponent) (r.unitsOf d))

def displayUnit? (r : Rows) (d : DenomRow) : Option UnitRow :=
  lastGreatest? (·.exponent) (r.unitsOf d)

/-- The denomination of a unit. A row with the base of a later one is out of use. -/
def denomOf? (r : Rows) (u : UnitRow) : Option DenomRow :=
  r.denoms.find? fun d => d.id == u.denomId && r.denom? d.base == some d

/-- The denomination that a base, a unit or an alias names, and the unit that is meant. A base goes
before the names of units, even if it has no units. -/
def resolve? (r : Rows) (name : String) : Option (DenomRow × UnitRow) :=
  match r.denom? name with
  | some d => (r.baseUnit? d).map fun u => (d, u)
  | none => do
    let u ← r.unit? name
    let d ← r.denomOf? u
    return (d, u)

end Rows

end TaxLedger.Denom
