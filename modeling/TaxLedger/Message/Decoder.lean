import TaxLedger.Event.Action
import TaxLedger.Movement

/-!
# Decoders

A decoder turns one message of a known type, with the log entry it left, into a description and its
movements.
-/

namespace TaxLedger

structure Reading where
  description : String
  movements : List Movement
  deriving DecidableEq, Repr, Inhabited

/-- A decoder for the messages of one type. `blank` is what it shows before it has read a message. -/
structure Decoder where
  messageType : String
  blank : Reading
  read : (typeUrl : String) → (message : Json) → (log : Option LogEntry) →
    Except DecodeError Reading

namespace Decoder

/-- A decoder that reads messages into values of a type `α` and shows such a value. -/
def make {α : Type} (messageType : String) (blank : α) (view : α → Reading)
    (read : (typeUrl : String) → (message : Json) → (log : Option LogEntry) →
      Except DecodeError α) : Decoder where
  messageType := messageType
  blank := view blank
  read typeUrl message log := (read typeUrl message log).map view

end Decoder

namespace Message

def body {α : Type} (read : Json → Option α) (message : Json) : Except DecodeError α :=
  match read message with
  | some v => .ok v
  | none => .error .json

def requireLog (typeUrl : String) : Option LogEntry → Except DecodeError LogEntry
  | some entry => .ok entry
  | none => .error (.logFormat typeUrl "message has no log entry")

/-- The log entry, which has to be there and to name the type in its action. -/
def requireAction (typeUrl : String) (log : Option LogEntry) : Except DecodeError LogEntry := do
  let entry ← requireLog typeUrl log
  if entry.hasAction typeUrl then .ok entry
  else .error (.logFormat typeUrl "message action does not match")

def requireEvent (typeUrl : String) (entry : LogEntry) (kind : String) (reason : String) :
    Except DecodeError Event :=
  match entry.firstOfKind? kind with
  | some e => .ok e
  | none => .error (.logFormat typeUrl reason)

/-- The name of a message type without its package: what follows the last point. -/
def shortName (typeUrl : String) : String :=
  match afterLast? ['.'] typeUrl.toList with
  | some name => String.ofList name
  | none => typeUrl

def coinsOfTexts (coins : List CoinText) : Except DecodeError (List Coin) :=
  coins.mapM CoinText.toCoin

end Message

end TaxLedger
