import TaxLedger.Denom.Asset
import TaxLedger.FileTree
import TaxLedger.Json.Parse

/-!
# Asset catalogs

A catalog is a directory with one directory per chain, in which a file holds the asset list of the
chain. Lists are read in the order of the directories' names, and a later list's asset takes the place
of an earlier one with the same base.
-/

namespace TaxLedger.Denom

abbrev Catalog := Assoc Asset

namespace Catalog

/-- Adds assets; a later one takes the place of an earlier one with the same base. -/
def addAll (c : Catalog) (assets : List Asset) : Catalog :=
  assets.foldl (fun c a => Assoc.insert a.base a c) c

def ofAssets (assets : List Asset) : Catalog := addAll [] assets

def listFile : String := "assetlist.json"

/-- Whether a directory of that name is left out: hidden ones, private ones and those on the list. -/
def isSkipped (blacklist : List String) (name : String) : Bool :=
  name.startsWith "." || name.startsWith "_" || blacklist.contains name

/-- The assets of a chain's directory; none where its list is missing or malformed. -/
def chainAssets (chain : List (String × FileTree)) : List Asset :=
  match chain.lookup listFile with
  | some (.file text) =>
    match (Json.parse? text).bind AssetList.ofJson? with
    | some list => list.named
    | none => []
  | _ => []

/-- The directories of chains, in the order of their names. -/
def chainDirectories (blacklist : List String) (entries : List (String × FileTree)) :
    List (String × List (String × FileTree)) :=
  (entries.filterMap fun (name, tree) =>
    match tree with
    | .directory chain => if isSkipped blacklist name then none else some (name, chain)
    | .file _ => none).mergeSort fun a b => decide (a.1 ≤ b.1)

def ofDirectory (blacklist : List String) (entries : List (String × FileTree)) : Catalog :=
  (chainDirectories blacklist entries).foldl (fun c (_, chain) => c.addAll (chainAssets chain)) []

def read (tree : FileTree) (path : List String) (blacklist : List String) :
    Except FileError Catalog :=
  (tree.readDirectory path).map (ofDirectory blacklist)

end Catalog

end TaxLedger.Denom
