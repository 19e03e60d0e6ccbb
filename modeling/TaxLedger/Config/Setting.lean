import TaxLedger.Assoc
import TaxLedger.Binary64
import TaxLedger.Power
import TaxLedger.Text.LowerCase

/-!
# Settings

The values of a configuration and how lenient a reader is with them: a number may stand for a truth
value or a text, a text for a number or a truth value, a float for the nearest integer.
-/

namespace TaxLedger.Config

/-- A value of a configuration. `unset` is a place that was made only to reach another one. -/
inductive Setting where
  | unset
  | bool (value : Bool)
  | int (value : Int)
  | float (value : Binary64)
  | text (value : String)
  | list (items : List Setting)
  | table (entries : List (String × Setting))
  deriving Inhabited

def truthWord? (word : String) : Option Bool :=
  if ["true", "on", "yes"].contains word then some true
  else if ["false", "off", "no"].contains word then some false
  else none

/-! ### Numbers in texts -/

/-- The float that digits with at most one point and an optional exponent write. -/
def floatOfChars? (negative : Bool) (cs : List Char) : Option Binary64 :=
  let isMark (c : Char) : Bool := c == 'e' || c == 'E'
  let mantissa := cs.takeWhile fun c => !isMark c
  let whole := mantissa.takeWhile (· != '.')
  let behind := (mantissa.dropWhile (· != '.')).drop 1
  let digits := whole ++ behind
  if digits.isEmpty || !digits.all Text.isDigit then none
  else
    let exponent : Option Int :=
      match cs.dropWhile fun c => !isMark c with
      | [] => some 0
      | _ :: rest => Text.intOfChars? rest
    exponent.map fun e =>
      Binary64.ofScientific negative (Text.ofDigitsFrom 0 digits) (e - behind.length)

def magnitude? (negative : Bool) (cs : List Char) : Option Binary64 :=
  match String.ofList (cs.map Char.toLower) with
  | "inf" | "infinity" => some (.infinite negative)
  | "nan" => some .nan
  | _ => floatOfChars? negative cs

def float? (s : String) : Option Binary64 :=
  match s.toList with
  | '-' :: cs => magnitude? true cs
  | '+' :: cs => magnitude? false cs
  | cs => magnitude? false cs

namespace Setting

/-! ### Lenient readers -/

def asBool? : Setting → Option Bool
  | bool b => some b
  | int n => some (n != 0)
  | float x => some (!x.isZero)
  | text s =>
    let word := Text.lower s
    if word = "1" then some true else if word = "0" then some false else truthWord? word
  | _ => none

/-- A float as an integer between `lo` and `hi`: the nearest one, with what is out of range at its
end and what is no number at zero. -/
def roundInto (lo hi : Int) : Binary64 → Int
  | .nan => if 0 < lo then lo else 0
  | .infinite negative => if negative then lo else hi
  | x => max lo (min hi x.roundHalfAway)

/-- The integer between `lo` and `hi` that a value stands for; a text is read by `read`. -/
def asIntWith? (lo hi : Int) (read : String → Option Int) : Setting → Option Int
  | bool b => some (if b then 1 else 0)
  | int n => if lo ≤ n && n ≤ hi then some n else none
  | float x => some (roundInto lo hi x)
  | text s =>
    match truthWord? (Text.lower s) with
    | some b => some (if b then 1 else 0)
    | none => read s
  | _ => none

def asInt? : Setting → Option Int := asIntWith? int64Min int64Max Text.int64?

def asNat? (v : Setting) : Option Nat :=
  (v.asIntWith? 0 nat64Max fun s => (Text.nat64? s).map Int.ofNat).map Int.toNat

def asFloat? : Setting → Option Binary64
  | bool b => some (Binary64.ofInt (if b then 1 else 0))
  | int n => some (Binary64.ofInt n)
  | float x => some x
  | text s =>
    match truthWord? (Text.lower s) with
    | some b => some (Binary64.ofInt (if b then 1 else 0))
    | none => float? s
  | _ => none

def asText? : Setting → Option String
  | bool b => some (if b then "true" else "false")
  | int n => some (toString n)
  | float x => some x.renderPlain
  | text s => some s
  | _ => none

def asTexts? : Setting → Option (List String)
  | list items => items.mapM asText?
  | _ => none

def namedText? (entry : String × Setting) : Option (String × String) :=
  (asText? entry.2).map fun s => (entry.1, s)

def asTextTable? : Setting → Option (Assoc String)
  | table entries => do
    let texts ← entries.mapM namedText?
    return Assoc.ofList texts
  | _ => none

/-- The values of the fields `names` in order: by name in a table, by place in a list. -/
def fields? (names : List String) : Setting → Option (List (Option Setting))
  | table entries => some (names.map fun name => entries.lookup name)
  | list items =>
    some ((items.take names.length).map some ++ List.replicate (names.length - items.length) none)
  | _ => none

end Setting

def required {α : Type} (read : Setting → Option α) : Option Setting → Option α
  | some v => read v
  | none => none

/-- The field value, read by `read`; `fallback` when it is missing. -/
def withDefault {α : Type} (fallback : α) (read : Setting → Option α) : Option Setting → Option α
  | some v => read v
  | none => some fallback

/-- The text of a field that may be missing or unset. -/
def optionalText : Option Setting → Option (Option String)
  | none => some none
  | some .unset => some none
  | some v => (v.asText?).map some

end TaxLedger.Config
