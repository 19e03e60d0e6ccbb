import TaxLedger.Denom.Convert
import TaxLedger.Power
import TaxLedger.Store.Connection

/-!
# Denominations in the store

A denomination that the store does not know gets a row of its own with nothing but its base. The rows
of asset lists take the place of such rows, and what is known of the rows is what was last read.
-/

namespace TaxLedger.Store

open Denom (Known Rows Asset AssetUnit)

variable {ω : Type} [Server ω]

def knownDenom (r : Numbered DenomRow) : Denom.DenomRow :=
  ⟨r.id, r.row.base, r.row.name, r.row.symbol⟩

/-- The row of a base; a new one has neither name nor symbol. -/
def getDenom (base : String) : Work (Store ω) Failure Denom.DenomRow :=
  (getOrInsert ("denom " ++ base) ({ base } : DenomRow)).map knownDenom

/-- The row of a base: the one that was last read, or else one in the store. -/
def ensureDenom (known : Known) (base : String) : Work (Store ω) Failure Denom.DenomRow :=
  match known.rows.denom? base with
  | some row => return row
  | none => getDenom base

def loadDenoms : Work (Store ω) Failure Rows := do
  let denoms ← doing "Failed to load denoms" (select [] fun _ : DenomRow => true)
  let units ← doing "Failed to load denom units" (select [] fun _ : UnitRow => true)
  let aliases ← doing "Failed to load denom unit aliases" (select [] fun _ : AliasRow => true)
  return {
    denoms := denoms.map knownDenom
    units := units.map fun r => ⟨r.id, r.row.denom, r.row.exponent, r.row.name⟩
    aliases := aliases.map fun r => ⟨r.id, r.row.unit, r.row.name⟩ }

def nonEmpty (text : String) : Option String := if text = "" then none else some text

/-- Writes a unit of a denomination with its aliases. A unit that is there keeps its denomination, and
an alias its unit. -/
def writeUnit (denom : Nat) (u : AssetUnit) : Work (Store ω) Failure Unit := do
  if int32Max < u.exponent then
    throw ((Failure.ofText "number too large to fit in target type").within
      ("Exponent of " ++ u.denom ++ " out of range"))
  let unit ← doing ("Failed to upsert denom unit " ++ u.denom)
    (insertOrMerge (fun old new => { old with exponent := new.exponent })
      (⟨denom, u.exponent, u.denom⟩ : UnitRow))
  for name in u.aliases do
    let _ ← doing ("Failed to upsert alias " ++ name) (insertNew (⟨unit, name⟩ : AliasRow))

/-- Writes an asset; name and symbol of a denomination that is there are replaced. -/
def writeAsset (a : Asset) : Work (Store ω) Failure Unit := do
  let denom ← doing ("Failed to upsert denom " ++ a.base)
    (insertOrMerge (fun old new => { old with name := new.name, symbol := new.symbol })
      (⟨a.base, nonEmpty a.name, nonEmpty a.symbol⟩ : DenomRow))
  for u in a.units do
    writeUnit denom u

/-- Writes assets, all of them or none. -/
def writeAssets (assets : List Asset) : Work (Store ω) Failure Unit :=
  transaction do
    for a in assets do
      writeAsset a

def assetsByBase (known : Known) : List Asset :=
  (known.catalog.map (·.2)).mergeSort fun a b => decide (a.base ≤ b.base)

def loadKnown (known : Known) : Work (Store ω) Failure Known := do
  let rows ← loadDenoms
  return { known with rows }

/-- Writes the assets of what is known into the store and reads its rows again. How many assets there
were. -/
def syncKnown (known : Known) : Work (Store ω) Failure (Nat × Known) := do
  let assets := assetsByBase known
  writeAssets assets
  let known ← loadKnown known
  return (assets.length, known)

end TaxLedger.Store
