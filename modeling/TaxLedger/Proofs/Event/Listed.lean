import TaxLedger.Proofs.Event.ByMessage
import TaxLedger.Proofs.Event.Merged

/-!
The entry of a message in a flat list of events. Gathering merges the entry that lists the events of the
message one by one (`forMessage?_gathered`); a kind with one event is left as it is
(`ofKind_gathered_of_single`), and nobody reads the tags (`values_untagged`, `ofEvent_untagged`).
-/

namespace TaxLedger

def listed (index : Int) (events : List Event) : LogEntry :=
  ⟨index, (eventsOf index events).map Event.untagged⟩

theorem forMessage?_gathered (events : List Event) (index : Int) :
    LogEntry.forMessage? (groupByMessage events) index =
      if eventsOf index events = [] then none else some (listed index events).merged :=
  forMessage?_groupByMessage events index

/-! ### Kinds -/

theorem ofKind_map_untagged (index : Int) (events : List Event) (kind : String) :
    (⟨index, events.map Event.untagged⟩ : LogEntry).ofKind kind =
      ((⟨index, events⟩ : LogEntry).ofKind kind).map Event.untagged := by
  rw [LogEntry.ofKind, LogEntry.ofKind, List.filter_map]
  rfl

theorem ofKind_merged_of_single {l : LogEntry} {kind : String} (single : (l.ofKind kind).length ≤ 1) :
    l.merged.ofKind kind = l.ofKind kind := by
  rw [ofKind_merged]
  cases events : l.ofKind kind with
  | nil => rfl
  | cons e rest =>
    have member : e ∈ l.ofKind kind := events ▸ List.mem_cons_self
    have own : e.kind = kind := by simpa using (List.mem_filter.mp member).2
    have alone : rest = [] := by
      rw [events, List.length_cons] at single
      exact List.eq_nil_of_length_eq_zero (by omega)
    rw [alone, if_neg (List.cons_ne_nil _ _), joined, List.flatMap_singleton, ← own]

/-- A kind with one event keeps it, less its tags. -/
theorem ofKind_gathered_of_single {index : Int} {events : List Event} {kind : String}
    (single : ((⟨index, events⟩ : LogEntry).ofKind kind).length ≤ 1) :
    (⟨index, events.map Event.untagged⟩ : LogEntry).merged.ofKind kind =
      ((⟨index, events⟩ : LogEntry).ofKind kind).map Event.untagged := by
  have alone : ((⟨index, events.map Event.untagged⟩ : LogEntry).ofKind kind).length ≤ 1 := by
    rwa [ofKind_map_untagged, List.length_map]
  rw [ofKind_merged_of_single alone, ofKind_map_untagged]

/-! ### Tags -/

theorem values_untagged {key : String} (other : key ≠ messageTag) (e : Event) :
    e.untagged.values key = e.values key := by
  rw [Event.values, Event.values, Event.untagged, List.filter_filter]
  congr 2
  funext a
  by_cases own : a.key = key
  · simp [own, other]
  · simp [own]

theorem last_untagged {key : String} (other : key ≠ messageTag) (e : Event) :
    e.untagged.last key = e.last key := by
  rw [Event.last, Event.last, values_untagged other]

theorem firstAction_untagged (events : List Event) :
    firstAction (events.map Event.untagged) = firstAction events := by
  cases events with
  | nil => rfl
  | cons e rest =>
    have told := values_untagged (by decide : "action" ≠ messageTag) e
    exact congrArg List.head? told

theorem joined_untagged (kind : String) (events : List Event) :
    joined kind (events.map Event.untagged) = (joined kind events).untagged := by
  simp only [joined, Event.untagged, List.flatMap_map, List.filter_flatMap]

theorem groups_untagged (current : Option Transfer) (attributes : List Attribute) :
    Transfer.groups current (attributes.filter fun a => a.key != messageTag) =
      Transfer.groups current attributes := by
  induction attributes generalizing current with
  | nil => rfl
  | cons a rest ih =>
    by_cases tag : a.key = messageTag
    · have skipped : Transfer.groups current (a :: rest) = Transfer.groups current rest := by
        simp [Transfer.groups, tag, messageTag]
      rw [skipped, ← ih, List.filter_cons_of_neg (by simp [tag])]
    · rw [List.filter_cons_of_pos (by simp [tag])]
      simp only [Transfer.groups, ih]

theorem ofEvent_untagged (e : Event) : Transfer.ofEvent e.untagged = Transfer.ofEvent e := by
  have kind : e.untagged.kind = e.kind := rfl
  rw [Transfer.ofEvent, Transfer.ofEvent, kind]
  split
  · exact groups_untagged none e.attributes
  · rfl

end TaxLedger
