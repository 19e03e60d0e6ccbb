import TaxLedger.Assoc
import TaxLedger.Binary64
import TaxLedger.Text.Quoted

/-!
# JSON values

The values of a JSON document, their compact and their indented print, and the canonical form in
which members are sorted by name and a name stands once.
-/

namespace TaxLedger

/-- A JSON value. Members of an object are kept in document order with repeated names. `unreadable`
is a well-formed piece of a document that has no value: a number out of range, a text or a name with
half of a surrogate pair, a nesting beyond the depth limit. Skipping it succeeds and reading it fails. -/
inductive Json where
  | null
  | bool (value : Bool)
  | int (value : Int)
  | float (value : Binary64)
  | str (value : String)
  | arr (items : List Json)
  | obj (members : List (String × Json))
  | unreadable
  deriving Inhabited

namespace Json

/-! ### Print -/

def escapeChar (c : Char) : List Char :=
  if c = '"' then ['\\', '"']
  else if c = '\\' then ['\\', '\\']
  else if c = '\x08' then ['\\', 'b']
  else if c = '\x0c' then ['\\', 'f']
  else if c = '\n' then ['\\', 'n']
  else if c = '\r' then ['\\', 'r']
  else if c = '\t' then ['\\', 't']
  else if c.toNat < 0x20 then
    ['\\', 'u', '0', '0', Text.hexDigit (c.toNat / 16), Text.hexDigit (c.toNat % 16)]
  else [c]

def renderString (s : String) : String :=
  String.ofList ('"' :: s.toList.flatMap escapeChar ++ ['"'])

/-- The digits of a float: positional from 1e-5 up to 1e16, with `.0` behind a whole number, and
scientific elsewhere. -/
def floatChars (d : Binary64.Digits) : List Char :=
  let text := (toString d.digits).toList
  let point : Int := d.exponent + text.length
  if 0 ≤ d.exponent && point ≤ 16 then d.positional ++ ['.', '0']
  else if -5 < point && point ≤ 16 then d.positional
  else
    let mantissa :=
      match text with
      | first :: second :: rest => first :: '.' :: second :: rest
      | short => short
    mantissa ++ 'e' :: (toString (point - 1)).toList

/-- A float in print; one that is not finite has no JSON form. -/
def renderFloat : Binary64 → String
  | .finite negative m e _ =>
    let digits := if m = 0 then ['0', '.', '0'] else floatChars (Binary64.shortest m e)
    String.ofList (if negative then '-' :: digits else digits)
  | _ => "null"

mutual

def render : Json → String
  | .null => "null"
  | .bool b => if b then "true" else "false"
  | .int n => toString n
  | .float x => renderFloat x
  | .str s => renderString s
  | .arr items => "[" ++ renderItems items ++ "]"
  | .obj members => "\x7b" ++ renderMembers members ++ "\x7d"
  | .unreadable => "null"

def renderItems : List Json → String
  | [] => ""
  | [v] => v.render
  | v :: rest => v.render ++ "," ++ renderItems rest

def renderMembers : List (String × Json) → String
  | [] => ""
  | [(k, v)] => renderString k ++ ":" ++ v.render
  | (k, v) :: rest => renderString k ++ ":" ++ v.render ++ "," ++ renderMembers rest

end

def newline (depth : Nat) : String := "\n" ++ String.ofList (List.replicate (2 * depth) ' ')

mutual

def renderIndented (depth : Nat) : Json → String
  | .null => "null"
  | .bool b => if b then "true" else "false"
  | .int n => toString n
  | .float x => renderFloat x
  | .str s => renderString s
  | .arr [] => "[]"
  | .arr (v :: rest) => "[" ++ indentedItems depth (v :: rest) ++ newline depth ++ "]"
  | .obj [] => "\x7b\x7d"
  | .obj (m :: rest) => "\x7b" ++ indentedMembers depth (m :: rest) ++ newline depth ++ "\x7d"
  | .unreadable => "null"

def indentedItems (depth : Nat) : List Json → String
  | [] => ""
  | [v] => newline (depth + 1) ++ v.renderIndented (depth + 1)
  | v :: rest => newline (depth + 1) ++ v.renderIndented (depth + 1) ++ "," ++ indentedItems depth rest

def indentedMembers (depth : Nat) : List (String × Json) → String
  | [] => ""
  | [(k, v)] => newline (depth + 1) ++ renderString k ++ ": " ++ v.renderIndented (depth + 1)
  | (k, v) :: rest =>
    newline (depth + 1) ++ renderString k ++ ": " ++ v.renderIndented (depth + 1) ++ "," ++
      indentedMembers depth rest

end

/-! ### Canonical form -/

mutual

/-- The value with members sorted by name, of which the last one of a name counts. `none` if a piece
of it is unreadable. -/
def canonical? : Json → Option Json
  | .null => some .null
  | .bool b => some (.bool b)
  | .int n => some (.int n)
  | .float x => some (.float x)
  | .str s => some (.str s)
  | .arr items => (canonicalItems? items).map .arr
  | .obj members => (canonicalMembers? [] members).map .obj
  | .unreadable => none

def canonicalItems? : List Json → Option (List Json)
  | [] => some []
  | v :: rest => do
    let v ← v.canonical?
    let rest ← canonicalItems? rest
    return v :: rest

def canonicalMembers? (done : List (String × Json)) :
    List (String × Json) → Option (List (String × Json))
  | [] => some done
  | (k, v) :: rest => do
    let v ← v.canonical?
    canonicalMembers? (Assoc.insert k v done) rest

end

/-! ### Look-up in a value -/

/-- The member of that name; `none` for what is not an object. -/
def get? : Json → String → Option Json
  | .obj members, name => members.lookup name
  | _, _ => none

/-- A member is smaller than its object. -/
theorem sizeOf_get? {v member : Json} {name : String} (found : v.get? name = some member) :
    sizeOf member < sizeOf v := by
  cases v with
  | obj members =>
    rw [get?, List.lookup_eq_some_iff] at found
    obtain ⟨before, after, rfl, -⟩ := found
    have inside : (name, member) ∈ before ++ (name, member) :: after := by simp
    have among := List.sizeOf_lt_of_mem inside
    rw [Prod.mk.sizeOf_spec] at among
    rw [obj.sizeOf_spec]
    omega
  | _ => cases found

def asString? : Json → Option String
  | .str s => some s
  | _ => none

def asArray? : Json → Option (List Json)
  | .arr items => some items
  | _ => none

def asObject? : Json → Option (List (String × Json))
  | .obj members => some members
  | _ => none

def isNull : Json → Bool
  | .null => true
  | _ => false

/-! ### Writing -/

def ofTexts (texts : List String) : Json := .arr (texts.map .str)

def ofList {α : Type} (write : α → Json) (items : List α) : Json := .arr (items.map write)

def ofOption {α : Type} (write : α → Json) : Option α → Json
  | some v => write v
  | none => .null

end Json

end TaxLedger
