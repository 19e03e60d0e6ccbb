import TaxLedger.Proofs.Event.ByMessage

/-!
Gathering loses and invents nothing. Entries in the order of their messages that hold, for each message,
the kinds and the attributes of its own events are what a list of events is gathered into, and no other
entries are (`gathered_exactly`).
-/

namespace TaxLedger

/-- The entries tell what the tagged events tell: an entry for each message that an event names, in it
the kinds of the events of that message as they came first, and under each kind the attributes of its
events in order, less the tags. -/
structure Gathers (events : List Event) (logs : List LogEntry) : Prop where
  sorted : Sorted logs
  messages : ∀ index, (∃ l ∈ logs, l.msgIndex = index) ↔ ∃ e ∈ events, e.messageIndex? = some index
  single : ∀ l ∈ logs, (kinds l.events).Nodup
  order : ∀ l ∈ logs, kinds l.events = (kinds (eventsOf l.msgIndex events)).eraseDups
  attributes : ∀ l ∈ logs, ∀ e ∈ l.events,
    e.attributes =
      (attributesOf e.kind (eventsOf l.msgIndex events)).filter fun a => a.key != messageTag

/-! ### Events without their tags -/

theorem kinds_untagged (events : List Event) : kinds (events.map Event.untagged) = kinds events := by
  rw [kinds, kinds, List.map_map]
  rfl

theorem attributesOf_untagged (kind : String) (events : List Event) :
    attributesOf kind (events.map Event.untagged) =
      (attributesOf kind events).filter fun a => a.key != messageTag := by
  induction events with
  | nil => rfl
  | cons e rest ih =>
    rw [List.map_cons, attributesOf_cons, attributesOf_cons, ih, List.filter_append]
    have same : e.untagged.kind = e.kind := rfl
    rw [same]
    by_cases own : e.kind = kind
    · rw [if_pos own, if_pos own]
      rfl
    · rw [if_neg own, if_neg own, List.filter_nil]

/-! ### The entries of a list of events -/

theorem eventsOf_ne_nil {index : Int} {events : List Event} :
    eventsOf index events ≠ [] ↔ ∃ e ∈ events, e.messageIndex? = some index := by
  simp [eventsOf, List.filter_eq_nil_iff]

theorem mem_groupByMessage {events : List Event} {l : LogEntry} :
    l ∈ groupByMessage events ↔ eventsOf l.msgIndex events ≠ [] ∧
      l.events = mergeAll ((eventsOf l.msgIndex events).map Event.untagged) := by
  have entry := forMessage?_groupByMessage events l.msgIndex
  constructor
  · intro member
    rw [forMessage?_of_mem (groupByMessage_sorted events) member] at entry
    split at entry
    · cases entry
    · rename_i told
      exact ⟨told, congrArg LogEntry.events (Option.some.inj entry)⟩
  · rintro ⟨told, merged⟩
    rw [if_neg told, ← merged] at entry
    exact (index_of_forMessage? entry).1

theorem groupByMessage_gathers (events : List Event) : Gathers events (groupByMessage events) where
  sorted := groupByMessage_sorted events
  messages index := by
    rw [← eventsOf_ne_nil]
    constructor
    · rintro ⟨l, member, rfl⟩
      exact (mem_groupByMessage.mp member).1
    · intro told
      exact ⟨⟨index, mergeAll ((eventsOf index events).map Event.untagged)⟩,
        mem_groupByMessage.mpr ⟨told, rfl⟩, rfl⟩
  single l member := by
    rw [(mem_groupByMessage.mp member).2]
    exact nodup_kinds_mergeAll _
  order l member := by
    rw [(mem_groupByMessage.mp member).2, kinds_mergeAll, kinds_untagged]
  attributes l member e inside := by
    have merged := (mem_groupByMessage.mp member).2
    rw [merged] at inside
    rw [← attributesOf_untagged, ← attributesOf_mergeAll,
      attributesOf_of_mem (nodup_kinds_mergeAll _) inside]

/-- What the entries have to be leaves no choice. -/
theorem Gathers.eq {events : List Event} {logs logs' : List LogEntry} (gathers : Gathers events logs)
    (gathers' : Gathers events logs') : logs = logs' := by
  refine sorted_ext gathers.sorted gathers'.sorted fun index => ?_
  have told := (gathers.messages index).trans (gathers'.messages index).symm
  cases found : LogEntry.forMessage? logs index with
  | none =>
    refine (forMessage?_eq_none fun l' member' same' => ?_).symm
    obtain ⟨l, member, same⟩ := told.mpr ⟨l', member', same'⟩
    rw [← same, forMessage?_of_mem gathers.sorted member] at found
    cases found
  | some l =>
    obtain ⟨member, rfl⟩ := index_of_forMessage? found
    obtain ⟨l', member', same⟩ := told.mp ⟨l, member, rfl⟩
    have kindsEq : kinds l.events = kinds l'.events := by
      rw [gathers.order l member, gathers'.order l' member', same]
    have eventsEq : l.events = l'.events := by
      refine kinds_ext (gathers.single l member) kindsEq fun e inside => ?_
      have known : e.kind ∈ kinds l'.events := kindsEq ▸ List.mem_map_of_mem inside
      obtain ⟨e', inside', kindEq⟩ := List.mem_map.mp known
      have other := attributesOf_of_mem (gathers'.single l' member') inside'
      rw [kindEq] at other
      rw [attributesOf_of_mem (gathers.single l member) inside, other,
        gathers.attributes l member e inside, gathers'.attributes l' member' e' inside', kindEq, same]
    have entryEq : l = l' := by
      obtain ⟨_, _⟩ := l
      obtain ⟨_, _⟩ := l'
      cases same
      cases eventsEq
      rfl
    rw [entryEq, forMessage?_of_mem gathers'.sorted member']

theorem groupByMessage_filter (events : List Event) :
    groupByMessage (events.filter fun e => e.messageIndex?.isSome) = groupByMessage events := by
  rw [groupByMessage, groupByMessage, List.foldl_filter]
  congr 1
  funext logs e
  cases told : e.messageIndex? with
  | none => simp [addEvent, told]
  | some index => simp [addEvent, told]

/-- Gathering loses and invents nothing: what comes out are the only entries that tell what the tagged
events tell, and the events without a readable tag have no part in them. -/
theorem gathered_exactly (events : List Event) :
    (∀ logs, groupByMessage events = logs ↔ Gathers events logs) ∧
      groupByMessage (events.filter fun e => e.messageIndex?.isSome) = groupByMessage events := by
  refine ⟨fun logs => ⟨?_, fun gathers => ?_⟩, groupByMessage_filter events⟩
  · rintro rfl
    exact groupByMessage_gathers events
  · exact (groupByMessage_gathers events).eq gathers

end TaxLedger
