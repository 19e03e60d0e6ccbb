import TaxLedger.Proofs.Event.Kinds

/-!
What becomes of events that are gathered by message. The entry of a message depends on the events of
that message alone (`forMessage?_groupByMessage`), and entries in order are known by their look-ups
(`sorted_ext`).
-/

namespace TaxLedger

/-- Log entries in the order of their messages, one for each. -/
def Sorted (logs : List LogEntry) : Prop := logs.Pairwise fun l m => l.msgIndex < m.msgIndex

def eventsOf (index : Int) (events : List Event) : List Event :=
  events.filter fun e => e.messageIndex? == some index

/-! ### Entries -/

theorem forMessage?_cons (l : LogEntry) (rest : List LogEntry) (index : Int) :
    LogEntry.forMessage? (l :: rest) index =
      if l.msgIndex = index then some l else LogEntry.forMessage? rest index := by
  rw [LogEntry.forMessage?, List.find?_cons]
  by_cases same : l.msgIndex = index
  · simp [same]
  · have off : (l.msgIndex == index) = false := by simpa using same
    rw [off, if_neg same]
    rfl

theorem forMessage?_eq_none {logs : List LogEntry} {index : Int}
    (absent : ∀ l ∈ logs, l.msgIndex ≠ index) : LogEntry.forMessage? logs index = none :=
  List.find?_eq_none.mpr fun l member => by simpa using absent l member

theorem index_of_forMessage? {logs : List LogEntry} {index : Int} {l : LogEntry}
    (found : LogEntry.forMessage? logs index = some l) : l ∈ logs ∧ l.msgIndex = index :=
  ⟨List.mem_of_find?_eq_some found, by simpa using List.find?_some found⟩

theorem forMessage?_of_mem {logs : List LogEntry} (sorted : Sorted logs) {l : LogEntry}
    (member : l ∈ logs) : LogEntry.forMessage? logs l.msgIndex = some l := by
  induction logs with
  | nil => cases member
  | cons head rest ih =>
    obtain ⟨below, later⟩ := List.pairwise_cons.mp sorted
    rw [forMessage?_cons]
    rcases List.mem_cons.mp member with rfl | inside
    · rw [if_pos rfl]
    · have apart := below l inside
      rw [if_neg (by omega), ih later inside]

/-- Sorted entries with the same look-ups are the same. -/
theorem sorted_ext {logs logs' : List LogEntry} (sorted : Sorted logs) (sorted' : Sorted logs')
    (same : ∀ index, LogEntry.forMessage? logs index = LogEntry.forMessage? logs' index) :
    logs = logs' := by
  induction logs generalizing logs' with
  | nil =>
    cases logs' with
    | nil => rfl
    | cons head rest =>
      have found := same head.msgIndex
      rw [forMessage?_cons, if_pos rfl] at found
      cases found
  | cons l rest ih =>
    obtain ⟨below, later⟩ := List.pairwise_cons.mp sorted
    have left := forMessage?_of_mem sorted List.mem_cons_self
    have found := (same l.msgIndex).symm.trans left
    cases logs' with
    | nil => cases found
    | cons m rest' =>
      obtain ⟨below', later'⟩ := List.pairwise_cons.mp sorted'
      have right := (same m.msgIndex).trans (forMessage?_of_mem sorted' List.mem_cons_self)
      -- Each head is found in the other list, so that neither index is the lower one.
      have first : l = m := by
        rcases List.mem_cons.mp (index_of_forMessage? found).1 with equal | inside
        · exact equal
        · rcases List.mem_cons.mp (index_of_forMessage? right).1 with equal | inside'
          · exact equal.symm
          · have lower := below' l inside
            have higher := below m inside'
            omega
      subst m
      rw [ih later later' fun index => ?_]
      have query := same index
      rw [forMessage?_cons, forMessage?_cons] at query
      by_cases own : l.msgIndex = index
      · rw [forMessage?_eq_none fun k member => ?_, forMessage?_eq_none fun k member => ?_]
        · have apart := below' k member
          omega
        · have apart := below k member
          omega
      · simpa [own] using query

/-! ### Gathering by message -/

theorem index_of_mem_addToMessage {index : Int} {e : Event} {logs : List LogEntry} {l : LogEntry}
    (member : l ∈ addToMessage index e logs) :
    l.msgIndex = index ∨ ∃ m ∈ logs, m.msgIndex = l.msgIndex := by
  induction logs with
  | nil =>
    rw [List.mem_singleton.mp member]
    exact .inl rfl
  | cons head rest ih =>
    rw [addToMessage] at member
    split at member
    · rcases List.mem_cons.mp member with rfl | old
      · exact .inl rfl
      · exact .inr ⟨l, old, rfl⟩
    · split at member
      · rename_i own
        rcases List.mem_cons.mp member with rfl | old
        · exact .inl own.symm
        · exact .inr ⟨l, List.mem_cons_of_mem _ old, rfl⟩
      · rcases List.mem_cons.mp member with rfl | deeper
        · exact .inr ⟨l, List.mem_cons_self, rfl⟩
        · rcases ih deeper with own | ⟨m, inside, same⟩
          · exact .inl own
          · exact .inr ⟨m, List.mem_cons_of_mem _ inside, same⟩

theorem addToMessage_sorted {index : Int} {e : Event} {logs : List LogEntry} (sorted : Sorted logs) :
    Sorted (addToMessage index e logs) := by
  induction logs with
  | nil => exact List.pairwise_singleton _ _
  | cons l rest ih =>
    obtain ⟨below, later⟩ := List.pairwise_cons.mp sorted
    rw [addToMessage]
    split
    · rename_i before
      refine List.pairwise_cons.mpr ⟨fun m member => ?_, sorted⟩
      rcases List.mem_cons.mp member with rfl | inside
      · exact before
      · exact Int.lt_trans before (below m inside)
    · split
      · exact List.pairwise_cons.mpr ⟨below, later⟩
      · refine List.pairwise_cons.mpr ⟨fun m member => ?_, ih later⟩
        rcases index_of_mem_addToMessage member with own | ⟨k, inside, same⟩
        · omega
        · have apart := below k inside
          omega

/-- An event goes behind those of its message, and no other entry changes. -/
theorem forMessage?_addToMessage {index : Int} {e : Event} {logs : List LogEntry}
    (sorted : Sorted logs) (query : Int) :
    LogEntry.forMessage? (addToMessage index e logs) query =
      if query = index then
        some ⟨index, mergeEvent e (((LogEntry.forMessage? logs index).map LogEntry.events).getD [])⟩
      else LogEntry.forMessage? logs query := by
  induction logs with
  | nil =>
    rw [addToMessage, forMessage?_cons]
    by_cases own : query = index
    · simp [own, LogEntry.forMessage?, mergeEvent]
    · simp [own, Ne.symm own]
  | cons l rest ih =>
    obtain ⟨below, later⟩ := List.pairwise_cons.mp sorted
    rw [addToMessage]
    split
    · rename_i before
      have absent : LogEntry.forMessage? (l :: rest) index = none :=
        forMessage?_eq_none fun m member => by
          rcases List.mem_cons.mp member with rfl | inside
          · omega
          · have apart := below m inside
            omega
      rw [forMessage?_cons, absent]
      by_cases own : query = index
      · simp [own, mergeEvent]
      · simp [own, Ne.symm own]
    · split
      · rename_i own
        subst own
        simp only [forMessage?_cons, ↓reduceIte, Option.map_some, Option.getD_some]
        by_cases same : query = l.msgIndex
        · simp [same]
        · simp [same, Ne.symm same]
      · rename_i apart
        simp only [forMessage?_cons, ih later]
        by_cases own : query = index
        · simp [own, Ne.symm apart]
        · simp [own]

theorem foldl_addEvent_sorted {logs : List LogEntry} (sorted : Sorted logs) (events : List Event) :
    Sorted (events.foldl addEvent logs) := by
  induction events generalizing logs with
  | nil => exact sorted
  | cons e rest ih =>
    refine ih ?_
    rw [addEvent]
    split
    · exact addToMessage_sorted sorted
    · exact sorted

theorem groupByMessage_sorted (events : List Event) : Sorted (groupByMessage events) :=
  foldl_addEvent_sorted List.Pairwise.nil events

/-- The entry of a message holds the events of that message and no others, merged by kind. -/
theorem forMessage?_groupByMessage (events : List Event) (index : Int) :
    LogEntry.forMessage? (groupByMessage events) index =
      if eventsOf index events = [] then none
      else some ⟨index, mergeAll ((eventsOf index events).map Event.untagged)⟩ := by
  induction events using List.reverseRecOn with
  | nil => rfl
  | append_singleton before e ih =>
    have sorted := groupByMessage_sorted before
    have grouped : groupByMessage (before ++ [e]) = addEvent (groupByMessage before) e := by
      rw [groupByMessage, List.foldl_append]
      rfl
    rw [grouped, addEvent]
    by_cases own : e.messageIndex? = some index
    · have more : eventsOf index (before ++ [e]) = eventsOf index before ++ [e] := by
        simp [eventsOf, own]
      rw [own, more]
      dsimp only
      have some : eventsOf index before ++ [e] ≠ [] := List.append_ne_nil_of_right_ne_nil _ (by simp)
      rw [forMessage?_addToMessage sorted, if_pos rfl, ih, if_neg some]
      by_cases first : eventsOf index before = []
      · simp [first, mergeAll]
      · simp [first, mergeAll]
    · have same : eventsOf index (before ++ [e]) = eventsOf index before := by
        simp [eventsOf, own]
      rw [same, ← ih]
      cases other : e.messageIndex? with
      | none => rfl
      | some index' =>
        have apart : index ≠ index' := fun equal => own (equal ▸ other)
        rw [forMessage?_addToMessage sorted, if_neg apart]

end TaxLedger
