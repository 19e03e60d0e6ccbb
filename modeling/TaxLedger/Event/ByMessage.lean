import TaxLedger.Event.Basic
import TaxLedger.Text.Integer

/-!
# Events by message

Nodes that give one flat list of events tag each with the index of its message. Here the events are
gathered into one log entry per message, and the events of one kind within a message into one event.
-/

namespace TaxLedger

def messageTag : String := "msg_index"

/-- The index in the first message tag of an event. -/
def Event.messageIndex? (e : Event) : Option Int := (e.find? messageTag).bind Text.int64?

/-- The index of an event stands in the first attribute that is a message tag. -/
theorem Event.messageIndex?_eq_some_iff {e : Event} {index : Int} :
    e.messageIndex? = some index ↔
      ∃ before tag after, e.attributes = before ++ ⟨messageTag, tag⟩ :: after ∧
        (∀ a ∈ before, a.key ≠ messageTag) ∧ Text.int64? tag = some index := by
  rw [messageIndex?, Option.bind_eq_some_iff]
  constructor
  · rintro ⟨tag, found, readable⟩
    obtain ⟨before, after, whole, apart⟩ := find?_eq_some_iff.mp found
    exact ⟨before, tag, after, whole, apart, readable⟩
  · rintro ⟨before, tag, after, whole, apart, readable⟩
    exact ⟨tag, find?_eq_some_iff.mpr ⟨before, after, whole, apart⟩, readable⟩

def Event.untagged (e : Event) : Event :=
  { e with attributes := e.attributes.filter fun a => a.key != messageTag }

/-- Adds an event to a list with at most one event of a kind: the attributes go behind those of the
event of the same kind, if there is one. -/
def mergeEvent (e : Event) : List Event → List Event
  | [] => [e]
  | x :: rest =>
    if x.kind = e.kind then { x with attributes := x.attributes ++ e.attributes } :: rest
    else x :: mergeEvent e rest

/-- Adds an event to the entry of message `index` in a list that is sorted by index. -/
def addToMessage (index : Int) (e : Event) : List LogEntry → List LogEntry
  | [] => [⟨index, [e]⟩]
  | l :: rest =>
    if index < l.msgIndex then ⟨index, [e]⟩ :: l :: rest
    else if index = l.msgIndex then { l with events := mergeEvent e l.events } :: rest
    else l :: addToMessage index e rest

/-- Adds an event to the entry of its message. An event without a readable tag belongs to none. -/
def addEvent (logs : List LogEntry) (e : Event) : List LogEntry :=
  match e.messageIndex? with
  | some index => addToMessage index e.untagged logs
  | none => logs

/-- One log entry per message, sorted by index. -/
def groupByMessage (events : List Event) : List LogEntry := events.foldl addEvent []

end TaxLedger
