import TaxLedger.Config.Setting
import TaxLedger.Power

/-!
# Setting paths

A path leads from the table of all settings to one of them: names with points between them and places
in lists in brackets. Writing at a path makes the tables and lists that lead there.
-/

namespace TaxLedger.Config

inductive Step where
  | name (name : String)
  | place (index : Int)
  deriving DecidableEq, Repr, Inhabited

abbrev Path := List Step

namespace Path

def isNameChar (c : Char) : Bool :=
  ('a' ≤ c && c ≤ 'z') || ('A' ≤ c && c ≤ 'Z') || Text.isDigit c || c == ' ' || c == '_' || c == '-'

def isSpace (c : Char) : Bool := c == ' ' || c == '\t' || c == '\r' || c == '\n'

def place? (cs : List Char) : Option Step :=
  let digits := ((cs.dropWhile isSpace).reverse.dropWhile isSpace).reverse
  match digits with
  | '+' :: _ => none
  | _ =>
    match Text.intOfChars? digits with
    | some n => if isInt64 n then some (.place n) else none
    | none => none

def steps? : (fuel : Nat) → List Char → Option Path
  | 0, _ => none
  | _ + 1, [] => some []
  | fuel + 1, '.' :: cs =>
    let name := cs.takeWhile isNameChar
    if name.isEmpty then none
    else (steps? fuel (cs.dropWhile isNameChar)).map (.name (String.ofList name) :: ·)
  | fuel + 1, '[' :: cs =>
    match place? (cs.takeWhile (· != ']')), cs.dropWhile (· != ']') with
    | some place, _ :: rest => (steps? fuel rest).map (place :: ·)
    | _, _ => none
  | _ + 1, _ => none

def parse? (s : String) : Option Path := steps? (s.length + 2) ('.' :: s.toList)

end Path

namespace Setting

/-- The entries of a table; none for what is no table. -/
def entries : Setting → List (String × Setting)
  | table entries => entries
  | _ => []

def items : Setting → List Setting
  | list items => items
  | _ => []

/-- Changes what stands under a name of a table, which is made if there is none. -/
def alterEntry (name : String) (f : Setting → Setting) (v : Setting) : Setting :=
  let entries := v.entries
  .table (Assoc.insert name (f ((Assoc.find? name entries).getD .unset)) entries)

/-- Changes what stands at a place of a list, which is made long enough. A negative place counts from
the end; one before the start does not exist. -/
def alterPlace (index : Int) (f : Setting → Setting) (v : Setting) : Setting :=
  let items := v.items
  let place := if 0 ≤ index then index else items.length + index
  if place < 0 then v
  else
    let place := place.toNat
    let items := items ++ List.replicate (place + 1 - items.length) .unset
    .list (items.modify place f)

mutual

/-- Puts `new` in the place of `old`, where tables are merged. -/
def merge : (new old : Setting) → Setting
  | .table entries, old => mergeEntries entries old
  | new, _ => new

def mergeEntries : List (String × Setting) → Setting → Setting
  | [], old =>
    match old with
    | .unset => .table []
    | old => old
  | (name, new) :: rest, old => mergeEntries rest (alterEntry name (merge new) old)

end

/-- Puts a value at a path. A table is merged with one that is there already. -/
def write (value : Setting) : Path → Setting → Setting
  | [], old => merge value old
  | .name name :: rest, v => alterEntry name (write value rest) v
  | .place index :: rest, v => alterPlace index (write value rest) v

end Setting

end TaxLedger.Config
