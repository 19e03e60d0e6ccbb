import TaxLedger.Failure
import TaxLedger.FileTree
import TaxLedger.Json.Parse
import TaxLedger.Json.Record

/-!
# Heights

A list of heights in a file, the window of heights whose events are indexed, and heights that are given
up.
-/

namespace TaxLedger.Indexer

def readHeights (path : String) (contents : Except FileError String) :
    Except Failure (List Int) := do
  let text ← match contents with
    | .ok text => .ok text
    | .error e =>
      .error ((Failure.ofText e.message).within ("Failed to read block input file " ++ path))
  let heights ← match (Json.parse? text).bind (Json.readList Json.readInt64) with
    | some heights => .ok heights
    | none =>
      .error ((Failure.ofText "unexpected value").within
        ("Block input file " ++ path ++ " is not a JSON array of heights"))
  match heights.find? (· < 1) with
  | some height => .error ⟨[], .config ("invalid height " ++ toString height ++ " in " ++ path)⟩
  | none => .ok heights

/-- Whether a height is in a window; a negative last height stands for no end. -/
def inWindow (height first last : Int) : Bool := first ≤ height && (last < 0 || height ≤ last)

/-- Refuses to keep what belongs to a height that was given up. -/
def refuseAbandoned (isAbandoned : Bool) (height : Int) : Except Failure Unit :=
  if isAbandoned then
    .error (.ofText ("Shutdown grace period exceeded, rolling back height " ++ toString height))
  else .ok ()

end TaxLedger.Indexer
