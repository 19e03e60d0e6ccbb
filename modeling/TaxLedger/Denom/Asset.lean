import TaxLedger.Json.Record
import TaxLedger.Power

/-!
# Assets

An asset is a denomination with the units it is shown in, as the asset list of a chain describes it.
-/

namespace TaxLedger.Denom

/-- A unit of an asset: ten to the `exponent` base units. -/
structure AssetUnit where
  denom : String
  exponent : Nat := 0
  aliases : List String := []
  deriving DecidableEq, Repr, Inhabited

structure Asset where
  description : String := ""
  base : String
  name : String := ""
  symbol : String := ""
  units : List AssetUnit := []
  chainName : String := ""
  deriving DecidableEq, Repr, Inhabited

structure AssetList where
  chainName : String
  assets : List Asset := []
  deriving DecidableEq, Repr, Inhabited

/-- The item that no other one beats; of two that do not beat each other the later one. -/
def last? {α : Type} (beats : α → α → Bool) : List α → Option α
  | [] => none
  | item :: rest => some (rest.foldl (fun best x => if beats best x then best else x) item)

namespace Asset

/-- The unit with the smallest exponent, the later one of equals. -/
def lowest? (a : Asset) : Option AssetUnit := last? (fun u v => u.exponent < v.exponent) a.units

/-- The unit with the largest exponent, the later one of equals. -/
def highest? (a : Asset) : Option AssetUnit := last? (fun u v => v.exponent < u.exponent) a.units

end Asset

/-! ### JSON -/

def readExponent (v : Json) : Option Nat := (Json.readInt 0 nat32Max v).map Int.toNat

namespace AssetUnit

def ofJson? (v : Json) : Option AssetUnit :=
  match v.recordWith? 1 ["denom", "exponent", "aliases"] with
  | some [denom, exponent, aliases] => do
    let denom ← Json.required Json.readString denom
    let exponent ← Json.withDefault 0 readExponent exponent
    let aliases ← Json.withDefault [] (Json.readList Json.readString) aliases
    return ⟨denom, exponent, aliases⟩
  | _ => none

def toJson (u : AssetUnit) : Json :=
  .obj [("denom", .str u.denom), ("exponent", .int u.exponent),
    ("aliases", .arr (u.aliases.map .str))]

end AssetUnit

namespace Asset

def ofJson? (v : Json) : Option Asset :=
  match v.recordWith? 2 ["description", "base", "name", "symbol", "denom_units", "chain_name"] with
  | some [description, base, name, symbol, units, chainName] => do
    let text := Json.withDefault "" Json.readString
    let description ← text description
    let base ← Json.required Json.readString base
    let name ← text name
    let symbol ← text symbol
    let units ← Json.withDefault [] (Json.readList AssetUnit.ofJson?) units
    let chainName ← text chainName
    return ⟨description, base, name, symbol, units, chainName⟩
  | _ => none

def toJson (a : Asset) : Json :=
  .obj ([("description", .str a.description), ("base", .str a.base), ("name", .str a.name),
      ("symbol", .str a.symbol), ("denom_units", .arr (a.units.map AssetUnit.toJson))] ++
    if a.chainName = "" then [] else [("chain_name", .str a.chainName)])

end Asset

namespace AssetList

def ofJson? (v : Json) : Option AssetList :=
  match v.recordWith? 1 ["chain_name", "assets"] with
  | some [chainName, assets] => do
    let chainName ← Json.required Json.readString chainName
    let assets ← Json.withDefault [] (Json.readList Asset.ofJson?) assets
    return ⟨chainName, assets⟩
  | _ => none

def toJson (l : AssetList) : Json :=
  .obj [("chain_name", .str l.chainName), ("assets", .arr (l.assets.map Asset.toJson))]

def named (l : AssetList) : List Asset := l.assets.map fun a => { a with chainName := l.chainName }

end AssetList

end TaxLedger.Denom
