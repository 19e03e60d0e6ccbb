import Mathlib.Data.List.Basic
import Mathlib.Data.List.Induction
import TaxLedger.Event.ByMessage

/-!
Events merged by kind. Merging keeps the kinds in the order in which they came first (`kinds_mergeAll`)
and the attributes of each kind in order (`attributesOf_mergeAll`); events of different kinds are known
by these two (`kinds_ext`).
-/

namespace TaxLedger

def mergeAll (events : List Event) : List Event :=
  events.foldl (fun merged e => mergeEvent e merged) []

def kinds (events : List Event) : List String := events.map Event.kind

def attributesOf (kind : String) (events : List Event) : List Attribute :=
  (events.filter fun e => e.kind == kind).flatMap Event.attributes

/-! ### Kinds and attributes -/

theorem kinds_cons (e : Event) (rest : List Event) : kinds (e :: rest) = e.kind :: kinds rest := rfl

theorem kinds_append (before after : List Event) :
    kinds (before ++ after) = kinds before ++ kinds after :=
  List.map_append

theorem attributesOf_cons (kind : String) (e : Event) (rest : List Event) :
    attributesOf kind (e :: rest) =
      (if e.kind = kind then e.attributes else []) ++ attributesOf kind rest := by
  by_cases same : e.kind = kind
  · simp [attributesOf, same]
  · simp [attributesOf, same]

theorem attributesOf_append (kind : String) (before after : List Event) :
    attributesOf kind (before ++ after) = attributesOf kind before ++ attributesOf kind after := by
  rw [attributesOf, List.filter_append, List.flatMap_append]
  rfl

theorem attributesOf_eq_nil {kind : String} {events : List Event} (absent : kind ∉ kinds events) :
    attributesOf kind events = [] := by
  rw [attributesOf, List.filter_eq_nil_iff.mpr, List.flatMap_nil]
  intro e member own
  have same : e.kind = kind := by simpa using own
  exact absent (same ▸ List.mem_map_of_mem member)

theorem attributesOf_of_mem {events : List Event} (single : (kinds events).Nodup) {e : Event}
    (member : e ∈ events) : attributesOf e.kind events = e.attributes := by
  induction events with
  | nil => cases member
  | cons head rest ih =>
    obtain ⟨fresh, later⟩ := List.nodup_cons.mp single
    rw [attributesOf_cons]
    rcases List.mem_cons.mp member with rfl | inside
    · rw [if_pos rfl, attributesOf_eq_nil fresh, List.append_nil]
    · have apart : ¬head.kind = e.kind := fun equal => fresh (equal ▸ List.mem_map_of_mem inside)
      rw [if_neg apart, ih later inside, List.nil_append]

/-- Events of different kinds are known by their kinds and the attributes of each. -/
theorem kinds_ext {events events' : List Event} (single : (kinds events).Nodup)
    (same : kinds events = kinds events')
    (equal : ∀ e ∈ events, attributesOf e.kind events = attributesOf e.kind events') :
    events = events' := by
  induction events generalizing events' with
  | nil =>
    cases events' with
    | nil => rfl
    | cons _ _ => cases same
  | cons e rest ih =>
    cases events' with
    | nil => cases same
    | cons e' rest' =>
      have single' : (kinds (e' :: rest')).Nodup := same ▸ single
      obtain ⟨kind, later⟩ := List.cons.inj same
      obtain ⟨fresh, singles⟩ := List.nodup_cons.mp single
      have attributes : e.attributes = e'.attributes := by
        have whole := equal e List.mem_cons_self
        rwa [attributesOf_of_mem single List.mem_cons_self, kind,
          attributesOf_of_mem single' List.mem_cons_self] at whole
      -- The first event has no part in what is asked of the others, as its kind does not come again.
      have tail : rest = rest' := by
        refine ih singles later fun x member => ?_
        have apart : ¬e.kind = x.kind := fun same => fresh (same ▸ List.mem_map_of_mem member)
        have whole := equal x (List.mem_cons_of_mem _ member)
        rwa [attributesOf_cons, attributesOf_cons, ← kind, if_neg apart, if_neg apart] at whole
      obtain ⟨_, _⟩ := e
      obtain ⟨_, _⟩ := e'
      cases kind
      cases attributes
      rw [tail]

/-! ### Merging -/

theorem mergeAll_append (before : List Event) (e : Event) :
    mergeAll (before ++ [e]) = mergeEvent e (mergeAll before) := by
  rw [mergeAll, List.foldl_append]
  rfl

theorem kinds_mergeEvent (e : Event) (merged : List Event) :
    kinds (mergeEvent e merged) =
      if e.kind ∈ kinds merged then kinds merged else kinds merged ++ [e.kind] := by
  induction merged with
  | nil => rfl
  | cons x rest ih =>
    rw [mergeEvent]
    by_cases same : x.kind = e.kind
    · simp [kinds, same]
    · have apart : ¬e.kind = x.kind := fun equal => same equal.symm
      rw [if_neg same, kinds_cons, kinds_cons, ih]
      by_cases old : e.kind ∈ kinds rest
      · simp [old]
      · simp [old, apart]

/-- Merging keeps the kinds in the order in which they came first. -/
theorem kinds_mergeAll (events : List Event) : kinds (mergeAll events) = (kinds events).eraseDups := by
  induction events using List.reverseRecOn with
  | nil => rfl
  | append_singleton before e ih =>
    have single : kinds [e] = [e.kind] := rfl
    rw [mergeAll_append, kinds_mergeEvent, ih, kinds_append, single, List.eraseDups_append,
      List.cons_removeAll]
    by_cases old : e.kind ∈ kinds before
    · simp [old, List.mem_eraseDups]
    · simp [old, List.mem_eraseDups, List.eraseDups_cons]

theorem nodup_kinds_mergeEvent (e : Event) {merged : List Event} (single : (kinds merged).Nodup) :
    (kinds (mergeEvent e merged)).Nodup := by
  rw [kinds_mergeEvent]
  split
  · exact single
  · rename_i fresh
    exact List.nodup_append.mpr ⟨single, List.pairwise_singleton _ _, fun kind old _ new equal =>
      fresh (List.mem_singleton.mp new ▸ equal ▸ old)⟩

theorem nodup_kinds_mergeAll (events : List Event) : (kinds (mergeAll events)).Nodup := by
  induction events using List.reverseRecOn with
  | nil => exact List.nodup_nil
  | append_singleton before e ih =>
    rw [mergeAll_append]
    exact nodup_kinds_mergeEvent e ih

theorem attributesOf_mergeEvent (kind : String) (e : Event) {merged : List Event}
    (single : (kinds merged).Nodup) :
    attributesOf kind (mergeEvent e merged) =
      attributesOf kind merged ++ if e.kind = kind then e.attributes else [] := by
  induction merged with
  | nil =>
    rw [mergeEvent, attributesOf_cons]
    simp [attributesOf]
  | cons x rest ih =>
    obtain ⟨fresh, later⟩ := List.nodup_cons.mp single
    rw [mergeEvent]
    by_cases same : x.kind = e.kind
    · rw [if_pos same, attributesOf_cons, attributesOf_cons, same]
      by_cases own : e.kind = kind
      · -- No later event has the kind, so that the new attributes come last.
        have none : attributesOf kind rest = [] := attributesOf_eq_nil (own ▸ same ▸ fresh)
        simp [own, none]
      · simp [own]
    · rw [if_neg same, attributesOf_cons, attributesOf_cons, ih later, List.append_assoc]

/-- Merging keeps the attributes of a kind in order. -/
theorem attributesOf_mergeAll (kind : String) (events : List Event) :
    attributesOf kind (mergeAll events) = attributesOf kind events := by
  induction events using List.reverseRecOn with
  | nil => rfl
  | append_singleton before e ih =>
    rw [mergeAll_append, attributesOf_mergeEvent kind e (nodup_kinds_mergeAll before), ih,
      attributesOf_append, attributesOf_cons]
    simp [attributesOf]

end TaxLedger
