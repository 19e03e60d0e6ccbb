import TaxLedger.BlockEvent.Record
import TaxLedger.Event.Basic

/-!
# Block event handlers

Handlers for kinds of block events. A block's records are those of all its events that have handlers;
an event that none of its handlers accepts spoils the whole block.
-/

namespace TaxLedger.BlockEvent

structure Reading where
  description : String
  records : List Record
  deriving DecidableEq, Repr, Inhabited

/-- One way to read events of a kind. `blank` is what it shows before it has read an event. -/
structure Handler where
  blank : Reading
  read : Event → Except DecodeError Reading

/-- Handlers by kind of event, each in the order they are tried. -/
structure HandlerTable where
  handlers : List (String × Handler) := []

inductive Phase where
  | beginBlock
  | endBlock
  deriving DecidableEq, Repr

def Phase.name : Phase → String
  | .beginBlock => "BeginBlocker"
  | .endBlock => "EndBlocker"

namespace HandlerTable

def add (t : HandlerTable) (kind : String) (h : Handler) : HandlerTable :=
  ⟨t.handlers ++ [(kind, h)]⟩

def isEmpty (t : HandlerTable) : Bool := t.handlers.isEmpty

def handlersFor (t : HandlerTable) (kind : String) : List Handler :=
  (t.handlers.filter fun h => h.1 == kind).map (·.2)

/-- The first reading that one of the handlers gives, or the error of the last one; `problem` is the
error of the one before. -/
def firstReading (e : Event) (problem : DecodeError) : List Handler → Except DecodeError Reading
  | [] => .error problem
  | h :: rest =>
    match h.read e with
    | .ok reading => .ok reading
    | .error problem => firstReading e problem rest

/-- The records of one event; none if its kind has no handlers. -/
def readEvent (t : HandlerTable) (phase : Phase) (e : Event) : Except DecodeError (List Record) :=
  match t.handlersFor e.kind with
  | [] => .ok []
  | h :: rest =>
    match firstReading e (.unknownMessageType e.kind) (h :: rest) with
    | .ok reading => .ok reading.records
    | .error problem =>
      .error (.logFormat e.kind
        ("all " ++ phase.name ++ " handlers failed, last error: " ++ problem.message))

def process (t : HandlerTable) (phase : Phase) (events : List Event) :
    Except DecodeError (List Record) := do
  let lists ← events.mapM (t.readEvent phase)
  return lists.flatten

end HandlerTable

end TaxLedger.BlockEvent
