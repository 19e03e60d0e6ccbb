import TaxLedger.Text.LowerCase

/-!
# Environment variables

A variable of the environment whose name has a certain start overrides a setting. Double underscores
in its name divide the names of the path, a single one stands for a hyphen, and case does not matter.
-/

namespace TaxLedger.Config

def overrideStart : List Char := ['I', 'N', 'D', 'E', 'X', 'E', 'R', '_']

def stripStart? : (start cs : List Char) → Option (List Char)
  | [], cs => some cs
  | s :: start, c :: cs => if s = c then stripStart? start cs else none
  | _ :: _, [] => none

def splitDouble : List Char → List (List Char)
  | [] => [[]]
  | '_' :: '_' :: cs => [] :: splitDouble cs
  | c :: cs =>
    match splitDouble cs with
    | part :: parts => (c :: part) :: parts
    | [] => [[c]]

def settingName (part : List Char) : String :=
  String.ofList ((Text.lower (String.ofList part)).toList.map fun c => if c = '_' then '-' else c)

def overridePath? (variableName : String) : Option String :=
  match stripStart? overrideStart variableName.toList with
  | none => none
  | some cs =>
    match splitDouble cs with
    | [] | [_] => none
    | parts => some (String.intercalate "." (parts.map settingName))

/-- The order of overrides: by path, and by value for one path. -/
def overrideLe (a b : String × String) : Bool := a.1 < b.1 || (a.1 == b.1 && a.2 ≤ b.2)

/-- The overrides of an environment in the order in which they are made. -/
def overrides (env : List (String × String)) : List (String × String) :=
  (env.filterMap fun (name, value) => (overridePath? name).map fun path => (path, value)).mergeSort
    overrideLe

end TaxLedger.Config
