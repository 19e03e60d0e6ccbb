import TaxLedger.Json.Basic
import TaxLedger.Power

/-!
# JSON text

Reading a JSON document. A number without fraction and exponent that fits in 64 bits is an integer,
any other a float; a float is computed from the first nineteen or twenty digits and a power of ten in
double precision.
-/

namespace TaxLedger.Json

/-- Nesting from which on containers are unreadable. -/
def depthLimit : Nat := 128

def isSpace (c : Char) : Bool := c == ' ' || c == '\n' || c == '\t' || c == '\r'

def skipSpace (cs : List Char) : List Char := cs.dropWhile isSpace

/-! ### Numbers -/

def powerOfTen (n : Nat) : Binary64 := Binary64.ofScientific false 1 n

/-- Divides by `10 ^ 308` until the exponent that is left is one of the table, then once more.
`fuel` bounds the number of divisions. -/
def divideDown : (fuel : Nat) → Binary64 → Nat → Binary64
  | 0, x, _ => x
  | fuel + 1, x, exponent =>
    if exponent ≤ 308 then x.div (powerOfTen exponent)
    else if x.isZero then x
    else divideDown fuel (x.div (powerOfTen 308)) (exponent - 308)

/-- The float `significand · 10 ^ exponent`; `none` when it is out of range. -/
def floatOfParts (negative : Bool) (significand : Nat) (exponent : Int) : Option Binary64 :=
  let x := Binary64.ofRatio false significand 1
  let magnitude :=
    if 0 ≤ exponent then
      if exponent ≤ 308 then some (x.mul (powerOfTen exponent.toNat))
      else if x.isZero then some x
      else none
    else some (divideDown 4 x (-exponent).toNat)
  match magnitude with
  | some (.finite _ m e fits) => some (.finite negative m e fits)
  | _ => none

/-- Reads digits into the significand while it fits in 64 bits. Gives the significand and how many of
the digits were taken. -/
def takeSignificant (significand : Nat) : List Char → Nat × Nat
  | [] => (significand, 0)
  | c :: cs =>
    let next := significand * 10 + Text.digitValue c
    if next ≤ nat64Max then
      let (s, taken) := takeSignificant next cs
      (s, taken + 1)
    else (significand, 0)

/-- The exponent written by `digits`: `none` when it does not fit in 32 bits. -/
def exponentOfDigits (digits : List Char) : Option Nat :=
  let n := Text.ofDigitsFrom 0 digits
  if n ≤ int32Max then some n else none

/-- The value of a number token in its parts: digits before the point, digits behind it, and the sign
and digits of the exponent. -/
def numberOfParts (negative : Bool) (whole : List Char) (fraction : Option (List Char))
    (exponent : Option (Bool × List Char)) : Json :=
  let ofFloat (x : Option Binary64) := match x with
    | some x => Json.float x
    | none => .unreadable
  let (significand, taken) := takeSignificant 0 whole
  let dropped := whole.length - taken
  let (significand, scale) : Nat × Int :=
    match fraction with
    | some digits =>
      if dropped = 0 then
        let (s, n) := takeSignificant significand digits
        (s, -(n : Int))
      else (significand, (dropped : Int))
    | none => (significand, (dropped : Int))
  match exponent with
  | some (down, digits) =>
    match exponentOfDigits digits with
    | none =>
      if significand != 0 && !down then .unreadable else .float (Binary64.zero negative)
    | some n => ofFloat (floatOfParts negative significand (if down then scale - n else scale + n))
  | none =>
    if fraction.isSome || dropped != 0 then ofFloat (floatOfParts negative significand scale)
    else if !negative then .int significand
    else if significand = 0 || twoTo 63 < significand then
      ofFloat (floatOfParts true significand 0)
    else .int (-(significand : Int))

def digits1? (cs : List Char) : Option (List Char × List Char) :=
  let digits := cs.takeWhile Text.isDigit
  if digits.isEmpty then none else some (digits, cs.dropWhile Text.isDigit)

/-- The digits before the point: a zero stands alone. -/
def whole? : List Char → Option (List Char × List Char)
  | '0' :: cs =>
    match cs with
    | c :: _ => if Text.isDigit c then none else some (['0'], cs)
    | [] => some (['0'], [])
  | cs => digits1? cs

def fraction? : List Char → Option (Option (List Char) × List Char)
  | '.' :: cs => (digits1? cs).map fun (digits, rest) => (some digits, rest)
  | cs => some (none, cs)

/-- The exponent behind a letter e, if there is one: whether it is negative, and its digits. -/
def exponentPart? : List Char → Option (Option (Bool × List Char) × List Char)
  | c :: cs =>
    if c == 'e' || c == 'E' then
      match cs with
      | '+' :: rest => (digits1? rest).map fun (digits, rest) => (some (false, digits), rest)
      | '-' :: rest => (digits1? rest).map fun (digits, rest) => (some (true, digits), rest)
      | rest => (digits1? rest).map fun (digits, rest) => (some (false, digits), rest)
    else some (none, c :: cs)
  | [] => some (none, [])

def number? (negative : Bool) (cs : List Char) : Option (Json × List Char) := do
  let (whole, cs) ← whole? cs
  let (fraction, cs) ← fraction? cs
  let (exponent, cs) ← exponentPart? cs
  return (numberOfParts negative whole fraction exponent, cs)

/-! ### Texts -/

def unit? : List Char → Option (Nat × List Char)
  | a :: b :: c :: d :: rest => do
    let a ← Text.hexValue? a
    let b ← Text.hexValue? b
    let c ← Text.hexValue? c
    let d ← Text.hexValue? d
    return (((a * 16 + b) * 16 + c) * 16 + d, rest)
  | _ => none

def shortEscape? : Char → Option Char
  | '"' => some '"'
  | '\\' => some '\\'
  | '/' => some '/'
  | 'b' => some '\x08'
  | 'f' => some '\x0c'
  | 'n' => some '\n'
  | 'r' => some '\r'
  | 't' => some '\t'
  | _ => none

def isHighUnit (n : Nat) : Bool := 0xd800 ≤ n && n ≤ 0xdbff

def isLowUnit (n : Nat) : Bool := 0xdc00 ≤ n && n ≤ 0xdfff

/-- The rest of a text after its opening quote: its characters, or `none` when it holds half of a
surrogate pair, and what follows the closing quote. `fuel` bounds the characters read. -/
def stringBody? : (fuel : Nat) → (done : List Char) → List Char →
    Option (Option (List Char) × List Char)
  | 0, _, _ => none
  | _ + 1, _, [] => none
  | fuel + 1, done, c :: cs =>
    if c = '"' then some (some done.reverse, cs)
    else if c = '\\' then
      match cs with
      | 'u' :: cs =>
        match unit? cs with
        | none => none
        | some (high, rest) =>
          if isHighUnit high then
            match rest with
            | '\\' :: 'u' :: tail =>
              match unit? tail with
              | none => none
              | some (low, after) =>
                if isLowUnit low then
                  let point := 0x10000 + (high - 0xd800) * 0x400 + (low - 0xdc00)
                  stringBody? fuel (Char.ofNat point :: done) after
                else
                  (stringBody? fuel done rest).map fun (_, after) => (none, after)
            | _ => (stringBody? fuel done rest).map fun (_, after) => (none, after)
          else if isLowUnit high then
            (stringBody? fuel done rest).map fun (_, after) => (none, after)
          else stringBody? fuel (Char.ofNat high :: done) rest
      | e :: cs =>
        match shortEscape? e with
        | some c => stringBody? fuel (c :: done) cs
        | none => none
      | [] => none
    else if c.toNat < 0x20 then none
    else stringBody? fuel (c :: done) cs

def string? (cs : List Char) : Option (Option String × List Char) :=
  (stringBody? (cs.length + 1) [] cs).map fun (s, rest) => (s.map String.ofList, rest)

/-! ### Values -/

mutual

/-- A value and what follows it, where `depth` containers are open. `fuel` bounds the steps. -/
def value? : (fuel depth : Nat) → List Char → Option (Json × List Char)
  | 0, _, _ => none
  | fuel + 1, depth, cs =>
    match skipSpace cs with
    | 'n' :: 'u' :: 'l' :: 'l' :: rest => some (.null, rest)
    | 't' :: 'r' :: 'u' :: 'e' :: rest => some (.bool true, rest)
    | 'f' :: 'a' :: 'l' :: 's' :: 'e' :: rest => some (.bool false, rest)
    | '"' :: rest =>
      (string? rest).map fun
        | (some s, rest) => (.str s, rest)
        | (none, rest) => (.unreadable, rest)
    | '[' :: rest =>
      match skipSpace rest with
      | ']' :: rest => some (if depth + 1 < depthLimit then .arr [] else .unreadable, rest)
      | rest =>
        (items? fuel (depth + 1) rest).map fun (items, rest) =>
          (if depth + 1 < depthLimit then .arr items else .unreadable, rest)
    | '\x7b' :: rest =>
      match skipSpace rest with
      | '\x7d' :: rest => some (if depth + 1 < depthLimit then .obj [] else .unreadable, rest)
      | rest =>
        (members? fuel (depth + 1) rest).map fun
          | (some members, rest) =>
            (if depth + 1 < depthLimit then .obj members else .unreadable, rest)
          | (none, rest) => (.unreadable, rest)
    | '-' :: rest => number? true rest
    | rest => number? false rest

/-- The items of an array up to its closing bracket; there is at least one. -/
def items? : (fuel depth : Nat) → List Char → Option (List Json × List Char)
  | 0, _, _ => none
  | fuel + 1, depth, cs =>
    match value? fuel depth cs with
    | none => none
    | some (v, rest) =>
      match skipSpace rest with
      | ',' :: rest => (items? fuel depth rest).map fun (vs, rest) => (v :: vs, rest)
      | ']' :: rest => some ([v], rest)
      | _ => none

/-- The members of an object up to its closing brace; there is at least one. `none` stands for the
members when a name among them is unreadable. -/
def members? : (fuel depth : Nat) → List Char →
    Option (Option (List (String × Json)) × List Char)
  | 0, _, _ => none
  | fuel + 1, depth, cs =>
    match skipSpace cs with
    | '"' :: rest =>
      match string? rest with
      | none => none
      | some (name, rest) =>
        match skipSpace rest with
        | ':' :: rest =>
          match value? fuel depth rest with
          | none => none
          | some (v, rest) =>
            let add (members : Option (List (String × Json))) : Option (List (String × Json)) := do
              let name ← name
              let members ← members
              return (name, v) :: members
            match skipSpace rest with
            | ',' :: rest => (members? fuel depth rest).map fun (ms, rest) => (add ms, rest)
            | '\x7d' :: rest => some (add (some []), rest)
            | _ => none
        | _ => none
    | _ => none

end

def parse? (s : String) : Option Json :=
  let cs := s.toList
  match value? (2 * cs.length + 2) 0 cs with
  | some (v, rest) => if (skipSpace rest).isEmpty then some v else none
  | none => none

end TaxLedger.Json
