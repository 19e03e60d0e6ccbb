import TaxLedger.DecodeError
import TaxLedger.Decimal
import TaxLedger.Json.Record
import TaxLedger.Text.Blank

/-!
# Coins

An amount of one denomination, and how amounts, coins and coin lists are read from event logs and
from message bodies. What is read has no digits behind the point, and any number before it.
-/

namespace TaxLedger

/-- An amount in base units of a denomination. -/
structure Coin where
  amount : Decimal
  denom : String
  deriving DecidableEq, Repr, Inhabited

namespace Coin

def render (c : Coin) : String := c.amount.render ++ c.denom

instance : ToString Coin := ⟨render⟩

/-- The decimal that `s` writes without its digits behind the point. The empty text is zero. -/
def parseAmount (s : String) : Except DecodeError Decimal :=
  let s := Text.trim s
  if s = "" then .ok 0
  else
    match Decimal.ofString? s with
    | some d => .ok (d.withScale 0)
    | none => .error (.invalidCoin s)

def isAmountChar (c : Char) : Bool := Text.isDigit c || c == '.'

def isLetter (c : Char) : Bool := ('a' ≤ c && c ≤ 'z') || ('A' ≤ c && c ≤ 'Z')

def isDenomChar (c : Char) : Bool :=
  isLetter c || Text.isDigit c || c == '/' || c == ':' || c == '.' || c == '_' || c == '-'

/-- A letter followed by 2 to 127 denomination characters. -/
def isDenom : List Char → Bool
  | [] => false
  | first :: rest =>
    isLetter first && rest.all isDenomChar && 2 ≤ rest.length && rest.length ≤ 127

def parse (s : String) : Except DecodeError Coin :=
  let s := Text.trim s
  let cs := s.toList
  let amount := cs.takeWhile isAmountChar
  let denom := Text.trimChars (cs.dropWhile isAmountChar)
  if amount.isEmpty || !isDenom denom then .error (.invalidCoin s)
  else (parseAmount (String.ofList amount)).map fun n => ⟨n, String.ofList denom⟩

/-- Splits at every `c`; the parts between are kept even if they are empty. -/
def splitChars (c : Char) : List Char → List (List Char)
  | [] => [[]]
  | x :: xs =>
    if x = c then [] :: splitChars c xs
    else
      match splitChars c xs with
      | [] => [[x]]
      | part :: parts => (x :: part) :: parts

/-- The parts of a coin list between its commas, without the empty ones. -/
def listParts (s : String) : List String :=
  (((splitChars ',' s.toList).map Text.trimChars).filter (!·.isEmpty)).map String.ofList

/-- Reads a list of coins with commas between them; the empty text is the empty list. -/
def parseList (s : String) : Except DecodeError (List Coin) := (listParts s).mapM parse

def renderList (coins : List Coin) : String := String.intercalate ", " (coins.map render)

end Coin

/-- A coin as a message body writes it, with its amount in a text. -/
structure CoinText where
  denom : String := ""
  amount : String := ""
  deriving DecidableEq, Repr, Inhabited

namespace CoinText

def ofJson? (v : Json) : Option CoinText :=
  match v.record? ["denom", "amount"] with
  | some [denom, amount] => do
    let denom ← Json.withDefault "" Json.readString denom
    let amount ← Json.withDefault "" Json.readString amount
    return ⟨denom, amount⟩
  | _ => none

def toCoin (c : CoinText) : Except DecodeError Coin :=
  (Coin.parseAmount c.amount).map fun n => ⟨n, c.denom⟩

end CoinText

end TaxLedger
