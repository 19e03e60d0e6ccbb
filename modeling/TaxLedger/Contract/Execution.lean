import TaxLedger.Bytes.Base64
import TaxLedger.Bytes.Utf8
import TaxLedger.Message.Decoder

/-!
# Contract executions

An execution of a smart contract with its payload, and what a handler for a family of contracts has
to offer.
-/

namespace TaxLedger.Contract

open Message

structure Execution where
  sender : String := ""
  contract : String := ""
  payload : Json := .null
  deriving Inhabited

namespace Execution

def bodyOfJson? (v : Json) : Option (String × String × Json) :=
  match v.record? ["sender", "contract", "msg"] with
  | some [sender, contract, payload] => do
    let sender ← Json.withDefault "" Json.readString sender
    let contract ← Json.required Json.readString contract
    let payload ← Json.withDefault .null Json.readValue payload
    return (sender, contract, payload)
  | _ => none

/-- The payload of a message: inline, or as JSON in a base64 text. -/
def payloadOf : Json → Except DecodeError Json
  | .str text =>
    match Base64.decode? text with
    | none => .error .base64
    | some bytes =>
      match (Utf8.parseJson? bytes).bind Json.readValue with
      | some v => .ok v
      | none => .error .json
  | v => .ok v

def ofMessage (message : Json) : Except DecodeError Execution := do
  let (sender, contract, payload) ← body bodyOfJson? message
  let payload ← payloadOf payload
  return ⟨sender, contract, payload⟩

def members (x : Execution) : List (String × Json) := (x.payload.asObject?).getD []

def names (x : Execution) : List String := x.members.map (·.1)

/-- The names of the payload's members that are not null. -/
def presentNames (x : Execution) : List String :=
  (x.members.filter fun m => !m.2.isNull).map (·.1)

end Execution

abbrev Reader := Execution → Option LogEntry → Except DecodeError Reading

/-- A family of contracts with one form of payload: its name for people, the names of the variants
of its payload, and its readers in the order they are tried. -/
structure Handler where
  friendlyName : String
  variants : List String
  readers : List Reader

end TaxLedger.Contract
