import TaxLedger.Json.Record

/-!
# Events

The events that a chain emits: typed lists of attributes. The look-ups by attribute key give the
empty text where the attribute is missing.
-/

namespace TaxLedger

structure Attribute where
  key : String
  value : String
  deriving DecidableEq, Repr, Inhabited

structure Event where
  kind : String
  attributes : List Attribute := []
  deriving DecidableEq, Repr, Inhabited

structure LogEntry where
  msgIndex : Int := 0
  events : List Event := []
  deriving DecidableEq, Repr, Inhabited

namespace Attribute

def ofJson? (v : Json) : Option Attribute :=
  match v.record? ["key", "value"] with
  | some [key, value] => do
    let key ← Json.withDefault "" Json.readText key
    let value ← Json.withDefault "" Json.readText value
    return ⟨key, value⟩
  | _ => none

def toJson (a : Attribute) : Json := .obj [("key", .str a.key), ("value", .str a.value)]

end Attribute

namespace Event

def ofJson? (v : Json) : Option Event :=
  match v.record? ["type", "attributes"] with
  | some [kind, attributes] => do
    let kind ← Json.required Json.readString kind
    let attributes ← Json.withDefault [] (Json.readList Attribute.ofJson?) attributes
    return ⟨kind, attributes⟩
  | _ => none

def toJson (e : Event) : Json :=
  .obj [("attributes", .arr (e.attributes.map Attribute.toJson)), ("type", .str e.kind)]

def values (e : Event) (key : String) : List String :=
  (e.attributes.filter fun a => a.key == key).map (·.value)

def find? (e : Event) (key : String) : Option String := (e.values key).head?

def first (e : Event) (key : String) : String := (e.find? key).getD ""

def last (e : Event) (key : String) : String := (e.values key).getLast?.getD ""

/-- The value of the `n`th attribute with that key, counted from one. -/
def nth (e : Event) (key : String) : Nat → String
  | 0 => ""
  | n + 1 => ((e.values key)[n]?).getD ""

def has (e : Event) (key : String) : Bool := e.attributes.any fun a => a.key == key

theorem find?_eq_none_iff {e : Event} {key : String} :
    e.find? key = none ↔ ∀ a ∈ e.attributes, a.key ≠ key := by
  simp [find?, values]

/-- The first value of a key is that of the attribute before which none has the key. -/
theorem find?_eq_some_iff {e : Event} {key value : String} :
    e.find? key = some value ↔
      ∃ before after, e.attributes = before ++ ⟨key, value⟩ :: after ∧ ∀ a ∈ before, a.key ≠ key := by
  rw [find?, values, List.head?_map, List.head?_filter, Option.map_eq_some_iff]
  constructor
  · rintro ⟨a, found, rfl⟩
    obtain ⟨own, before, after, whole, apart⟩ := List.find?_eq_some_iff_append.mp found
    obtain rfl : a.key = key := eq_of_beq own
    exact ⟨before, after, whole, fun b member => by simpa using apart b member⟩
  · rintro ⟨before, after, whole, apart⟩
    refine ⟨⟨key, value⟩, ?_, rfl⟩
    refine List.find?_eq_some_iff_append.mpr ⟨beq_self_eq_true key, before, after, whole, ?_⟩
    exact fun b member => by simpa using apart b member

theorem last_of_attributes {e : Event} {key value : String} {before after : List Attribute}
    (whole : e.attributes = before ++ ⟨key, value⟩ :: after) (apart : ∀ a ∈ after, a.key ≠ key) :
    e.last key = value := by
  have behind : (after.filter fun a => a.key == key) = [] := by simpa using apart
  simp [last, values, whole, behind]

theorem last_of_absent {e : Event} {key : String} (absent : ∀ a ∈ e.attributes, a.key ≠ key) :
    e.last key = "" := by
  have nothing : (e.attributes.filter fun a => a.key == key) = [] := by simpa using absent
  simp [last, values, nothing]

/-- The last value of a key is that of the attribute behind which none has the key; it is empty where no
attribute has it. -/
theorem last_eq_iff {e : Event} {key value : String} :
    e.last key = value ↔
      (∃ before after, e.attributes = before ++ ⟨key, value⟩ :: after ∧ ∀ a ∈ after, a.key ≠ key) ∨
        value = "" ∧ ∀ a ∈ e.attributes, a.key ≠ key := by
  constructor
  · rintro rfl
    cases found : e.attributes.reverse.find? fun a => a.key == key with
    | none =>
      have absent : ∀ a ∈ e.attributes, a.key ≠ key := by simpa using found
      exact .inr ⟨last_of_absent absent, absent⟩
    | some a =>
      obtain ⟨own, after, before, whole, apart⟩ := List.find?_eq_some_iff_append.mp found
      obtain rfl : a.key = key := eq_of_beq own
      have whole' : e.attributes = before.reverse ++ a :: after.reverse := by
        simpa using congrArg List.reverse whole
      have apart' : ∀ b ∈ after.reverse, b.key ≠ a.key := by simpa using apart
      rw [last_of_attributes whole' apart']
      exact .inl ⟨_, _, whole', apart'⟩
  · rintro (⟨before, after, whole, apart⟩ | ⟨rfl, absent⟩)
    · exact last_of_attributes whole apart
    · exact last_of_absent absent

end Event

namespace LogEntry

def ofJson? (v : Json) : Option LogEntry :=
  match v.record? ["msg_index", "events"] with
  | some [index, events] => do
    let index ← Json.withDefault 0 Json.readCount index
    let events ← Json.withDefault [] (Json.readList Event.ofJson?) events
    return ⟨index, events⟩
  | _ => none

def toJson (l : LogEntry) : Json :=
  .obj [("events", .arr (l.events.map Event.toJson)), ("msg_index", .int l.msgIndex)]

def ofKind (l : LogEntry) (kind : String) : List Event := l.events.filter fun e => e.kind == kind

def firstOfKind? (l : LogEntry) (kind : String) : Option Event :=
  l.events.find? fun e => e.kind == kind

def forMessage? (logs : List LogEntry) (index : Int) : Option LogEntry :=
  logs.find? fun l => l.msgIndex == index

end LogEntry

end TaxLedger
