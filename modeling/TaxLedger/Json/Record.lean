import TaxLedger.Json.Basic
import TaxLedger.Power

/-!
# Records in JSON

A record with named fields is written as an object or as an array of the fields in order. Unknown
members are skipped, a repeated known member is refused, and what a missing field means is up to the
field.
-/

namespace TaxLedger.Json

def valuesOf (name : String) (members : List (String × Json)) : List Json :=
  (members.filter fun m => m.1 == name).map (·.2)

/-- The value of the member `name`, if it stands there once or not at all. -/
def single? (name : String) (members : List (String × Json)) : Option (Option Json) :=
  match valuesOf name members with
  | [] => some none
  | [v] => some (some v)
  | _ => none

/-- The values of the fields `names` in order; `none` stands for a missing field. An array has at
least `least` items and not more than there are names. -/
def recordWith? (least : Nat) (names : List String) : Json → Option (List (Option Json))
  | .obj members => names.mapM fun name => single? name members
  | .arr items =>
    if least ≤ items.length && items.length ≤ names.length then
      some (items.map some ++ List.replicate (names.length - items.length) none)
    else none
  | _ => none

/-- The values of the fields `names` in order, all of which an array may leave out at its end. -/
def record? (v : Json) (names : List String) : Option (List (Option Json)) := recordWith? 0 names v

def required {α : Type} (read : Json → Option α) : Option Json → Option α
  | some v => read v
  | none => none

def withDefault {α : Type} (fallback : α) (read : Json → Option α) : Option Json → Option α
  | some v => read v
  | none => some fallback

def nullable {α : Type} (read : Json → Option α) : Json → Option (Option α)
  | .null => some none
  | v => (read v).map some

def readString : Json → Option String := asString?

def readBool : Json → Option Bool
  | .bool b => some b
  | _ => none

/-- An integer between `lo` and `hi`; a float never counts as one. -/
def readInt (lo hi : Int) : Json → Option Int
  | .int n => if lo ≤ n && n ≤ hi then some n else none
  | _ => none

def readInt64 : Json → Option Int := readInt int64Min int64Max

def readList {α : Type} (read : Json → Option α) : Json → Option (List α)
  | .arr items => items.mapM read
  | _ => none

/-- A text, where null is the empty one. -/
def readText : Json → Option String
  | .null => some ""
  | .str s => some s
  | _ => none

/-- A signed integer of 64 bits, as a number or in a text; null and the empty text are zero. -/
def readCount : Json → Option Int
  | .null => some 0
  | .str s => if s = "" then some 0 else Text.int64? s
  | v => readInt64 v

/-- An identifier: a text as it is, null as the empty one, and any other value in print. -/
def readIdentifier (v : Json) : Option String :=
  (canonical? v).map fun
    | .str s => s
    | .null => ""
    | other => other.render

def readValue : Json → Option Json := canonical?

end TaxLedger.Json
