import TaxLedger.Event.Action
import TaxLedger.Event.Flow
import TaxLedger.Proofs.Event.Kinds
import TaxLedger.Proofs.Result

/-!
Log entries whose events are merged by kind. A reader of the events of one kind does not see the merge
if it reads the events, put together, as it reads them one by one (`merged_congr`). For actions, coins
and transfers this holds where no event is cut in the middle of what is read (`Separable`).
-/

namespace TaxLedger

/-- The entry with one event of a kind, each at the place of the first of its kind. -/
def LogEntry.merged (l : LogEntry) : LogEntry := { l with events := mergeAll l.events }

def joined (kind : String) (events : List Event) : Event :=
  ⟨kind, events.flatMap Event.attributes⟩

def Event.endsWith (e : Event) (key : String) : Prop :=
  e.attributes.getLast?.map Attribute.key = some key

instance (e : Event) (key : String) : Decidable (e.endsWith key) :=
  inferInstanceAs (Decidable (_ = _))

/-- An entry whose events can be told apart after they are merged. -/
structure LogEntry.Separable (l : LogEntry) : Prop where
  receivers : ∀ e ∈ l.ofKind "coin_received", ¬e.endsWith "receiver"
  spenders : ∀ e ∈ l.ofKind "coin_spent", ¬e.endsWith "spender"
  transfers : ∀ e ∈ l.ofKind "transfer", (Transfer.ofEvent e).isOk = true
  action : ∀ first ∈ l.firstOfKind? "message",
    (∃ e ∈ l.ofKind "message", e.has "action" = true) → first.has "action" = true

theorem LogEntry.separable_iff (l : LogEntry) :
    l.Separable ↔
      (∀ e ∈ l.ofKind "coin_received", ¬e.endsWith "receiver") ∧
      (∀ e ∈ l.ofKind "coin_spent", ¬e.endsWith "spender") ∧
      (∀ e ∈ l.ofKind "transfer", (Transfer.ofEvent e).isOk = true) ∧
      ∀ first ∈ l.firstOfKind? "message",
        (∃ e ∈ l.ofKind "message", e.has "action" = true) → first.has "action" = true := by
  constructor
  · rintro ⟨receivers, spenders, transfers, action⟩
    exact ⟨receivers, spenders, transfers, action⟩
  · rintro ⟨receivers, spenders, transfers, action⟩
    exact ⟨receivers, spenders, transfers, action⟩

instance (l : LogEntry) : Decidable l.Separable := decidable_of_iff' _ l.separable_iff

/-! ### The events of a kind -/

theorem filter_of_nodup {events : List Event} (single : (kinds events).Nodup) (kind : String) :
    (events.filter fun e => e.kind == kind) =
      if kind ∈ kinds events then [⟨kind, attributesOf kind events⟩] else [] := by
  induction events with
  | nil => rfl
  | cons e rest ih =>
    obtain ⟨fresh, later⟩ := List.nodup_cons.mp single
    rw [List.filter_cons, ih later, kinds_cons, attributesOf_cons]
    by_cases own : e.kind = kind
    · subst own
      have alone : e.kind ∉ kinds rest := fresh
      simp [alone, attributesOf_eq_nil alone]
    · simp [own, Ne.symm own]

theorem ofKind_eq_nil {l : LogEntry} {kind : String} :
    l.ofKind kind = [] ↔ kind ∉ kinds l.events := by
  rw [LogEntry.ofKind, List.filter_eq_nil_iff, kinds, List.mem_map]
  simp

theorem ofKind_merged (l : LogEntry) (kind : String) :
    l.merged.ofKind kind = if l.ofKind kind = [] then [] else [joined kind (l.ofKind kind)] := by
  have single := nodup_kinds_mergeAll l.events
  have known : kind ∈ kinds (mergeAll l.events) ↔ kind ∈ kinds l.events := by
    rw [kinds_mergeAll, List.mem_eraseDups]
  have merged := filter_of_nodup single kind
  rw [attributesOf_mergeAll] at merged
  rw [LogEntry.ofKind, LogEntry.merged, merged]
  by_cases none : l.ofKind kind = []
  · rw [if_pos none, if_neg fun some => ofKind_eq_nil.mp none (known.mp some)]
  · rw [if_neg none, if_pos (known.mpr (not_not.mp fun absent => none (ofKind_eq_nil.mpr absent)))]
    rfl

/-- What reads the events of one kind does not see the merge if it reads them alike when they are put
together. -/
theorem merged_congr {α : Type} {read : List Event → α} {l : LogEntry} {kind : String}
    (alike : read [joined kind (l.ofKind kind)] = read (l.ofKind kind)) :
    read (l.merged.ofKind kind) = read (l.ofKind kind) := by
  rw [ofKind_merged]
  by_cases none : l.ofKind kind = []
  · rw [if_pos none, none]
  · rw [if_neg none, alike]

theorem isEmpty_merged (l : LogEntry) (kind : String) :
    (l.merged.ofKind kind).isEmpty = (l.ofKind kind).isEmpty := by
  rw [ofKind_merged]
  by_cases none : l.ofKind kind = []
  · rw [if_pos none, none]
  · rw [if_neg none, List.isEmpty_eq_false_iff.mpr none]
    rfl

theorem firstOfKind?_eq_head? (l : LogEntry) (kind : String) :
    l.firstOfKind? kind = (l.ofKind kind).head? :=
  List.head?_filter.symm

theorem values_joined (kind key : String) (events : List Event) :
    (joined kind events).values key = events.flatMap fun e => e.values key := by
  induction events with
  | nil => rfl
  | cons e rest ih =>
    rw [List.flatMap_cons, ← ih]
    simp [joined, Event.values]

/-! ### Actions -/

theorem has_iff {e : Event} {key : String} : e.has key = true ↔ e.values key ≠ [] := by
  simp [Event.has, Event.values]

def firstAction (events : List Event) : Option String :=
  events.head?.bind fun e => e.find? "action"

theorem hasAction_eq (l : LogEntry) (typeUrl : String) :
    l.hasAction typeUrl =
      (firstAction (l.ofKind "message")).any fun action =>
        action == typeUrl || action == legacyAction typeUrl := by
  rw [LogEntry.hasAction, firstOfKind?_eq_head?, firstAction]
  cases (l.ofKind "message").head? with
  | none => rfl
  | some e => cases found : e.find? "action" <;> simp [found]

theorem firstAction_joined {events : List Event}
    (first : ∀ e ∈ events.head?, (∃ x ∈ events, x.has "action" = true) → e.has "action" = true) :
    firstAction [joined "message" events] = firstAction events := by
  have joinedAction : firstAction [joined "message" events] =
      (events.flatMap fun e => e.values "action").head? := by
    rw [← values_joined "message"]
    rfl
  rw [joinedAction]
  cases events with
  | nil => rfl
  | cons e rest =>
    have own : firstAction (e :: rest) = (e.values "action").head? := rfl
    rw [own, List.flatMap_cons]
    by_cases told : e.values "action" = []
    · -- The first event tells no action, and so no event does.
      have silent : ∀ x ∈ e :: rest, x.values "action" = [] := by
        intro x member
        by_contra some
        exact has_iff.mp (first e rfl ⟨x, member, has_iff.mpr some⟩) told
      have others : (rest.flatMap fun e => e.values "action") = [] :=
        List.flatMap_eq_nil_iff.mpr fun x member => silent x (List.mem_cons_of_mem _ member)
      rw [told, others]
      rfl
    · obtain ⟨action, more, equal⟩ := List.exists_cons_of_ne_nil told
      rw [equal]
      rfl

theorem hasAction_merged {l : LogEntry} (separable : l.Separable) (typeUrl : String) :
    l.merged.hasAction typeUrl = l.hasAction typeUrl := by
  have first := separable.action
  simp only [firstOfKind?_eq_head?] at first
  rw [hasAction_eq, hasAction_eq, merged_congr (firstAction_joined first)]

/-! ### Coins -/

theorem amountsFollowing_cons_cons (key party : String) (a b : Attribute) (rest : List Attribute) :
    amountsFollowing key party (a :: b :: rest) =
      (if a.key = key ∧ a.value = party ∧ b.key = "amount" then [b.value] else []) ++
        amountsFollowing key party (b :: rest) := by
  rw [amountsFollowing]
  by_cases own : a.key = key ∧ a.value = party
  · by_cases amount : b.key = "amount"
    · simp [own, amount]
    · simp [own, amount]
  · have other : ¬(a.key = key ∧ a.value = party ∧ b.key = "amount") := fun all =>
      own ⟨all.1, all.2.1⟩
    simp [own, other]

theorem amountsFollowing_append (key party : String) {front : List Attribute}
    (closed : ∀ a, front.getLast? = some a → a.key ≠ key) (back : List Attribute) :
    amountsFollowing key party (front ++ back) =
      amountsFollowing key party front ++ amountsFollowing key party back := by
  induction front with
  | nil => rfl
  | cons a rest ih =>
    cases rest with
    | nil =>
      have other : a.key ≠ key := closed a rfl
      simp [amountsFollowing, other]
    | cons b rest =>
      have tail := ih fun x last => closed x (by rw [List.getLast?_cons_cons, last])
      have whole : a :: b :: rest ++ back = a :: b :: (rest ++ back) := rfl
      rw [whole, amountsFollowing_cons_cons, amountsFollowing_cons_cons, ← List.cons_append, tail,
        List.append_assoc]

theorem coinsFollowing_joined {key : String} (party kind : String) {events : List Event}
    (closed : ∀ e ∈ events, ¬e.endsWith key) :
    coinsFollowing key party [joined kind events] = coinsFollowing key party events := by
  have lists : amountsFollowing key party (events.flatMap Event.attributes) =
      events.flatMap fun e => amountsFollowing key party e.attributes := by
    induction events with
    | nil => rfl
    | cons e rest ih =>
      have own : ∀ a, e.attributes.getLast? = some a → a.key ≠ key := fun a last same =>
        closed e List.mem_cons_self (by rw [Event.endsWith, last, Option.map_some, same])
      rw [List.flatMap_cons, amountsFollowing_append key party own,
        ih fun x member => closed x (List.mem_cons_of_mem _ member), List.flatMap_cons]
  simp only [coinsFollowing, joined, List.flatMap_cons, List.flatMap_nil, List.append_nil, lists]

theorem coinsReceived_merged {l : LogEntry} (separable : l.Separable) (party : String) :
    coinsReceived party (l.merged.ofKind "coin_received") =
      coinsReceived party (l.ofKind "coin_received") :=
  merged_congr (coinsFollowing_joined party "coin_received" separable.receivers)

theorem coinsSpent_merged {l : LogEntry} (separable : l.Separable) (party : String) :
    coinsSpent party (l.merged.ofKind "coin_spent") = coinsSpent party (l.ofKind "coin_spent") :=
  merged_congr (coinsFollowing_joined party "coin_spent" separable.spenders)

/-! ### Transfers -/

namespace Transfer

def listOf (e : Event) : List Transfer :=
  match ofEvent e with
  | .ok transfers => transfers
  | .error _ => []

def Readable (events : List Event) : Prop := ∀ e ∈ events, ofEvent e = .ok (listOf e)

theorem readable_of_isOk {events : List Event}
    (passes : ∀ e ∈ events, (ofEvent e).isOk = true) : Readable events := by
  intro e member
  have ok := passes e member
  rw [listOf]
  cases read : ofEvent e with
  | error problem => rw [read] at ok; cases ok
  | ok transfers => rfl

theorem groups_of_ofEvent {e : Event} {transfers : List Transfer}
    (read : ofEvent e = .ok transfers) : groups none e.attributes = .ok transfers := by
  rw [ofEvent] at read
  split at read
  · exact read
  · cases read

/-- Groups that are read after others do not depend on them. -/
theorem groups_open {attributes : List Attribute} {transfers : List Transfer}
    (read : groups none attributes = .ok transfers) (current : Option Transfer) :
    groups current attributes = .ok (current.toList ++ transfers) := by
  induction attributes with
  | nil =>
    cases read
    simp [groups]
  | cons a rest ih =>
    by_cases opens : a.key = "recipient"
    · simp only [groups, if_pos opens] at read ⊢
      obtain ⟨found, later, equal⟩ := map_ok read
      rw [later, ← equal]
      rfl
    · -- A sender or an amount would have been refused, as no group was open.
      by_cases sender : a.key = "sender"
      · simp [groups, sender] at read
      · by_cases amount : a.key = "amount"
        · simp [groups, amount] at read
        · simp only [groups, if_neg opens, if_neg sender, if_neg amount] at read ⊢
          exact ih read

theorem groups_append {front back : List Attribute} {transfers : List Transfer}
    (read : groups none back = .ok transfers) (current : Option Transfer) :
    groups current (front ++ back) = (groups current front).map (· ++ transfers) := by
  induction front generalizing current with
  | nil => exact groups_open read current
  | cons a rest ih =>
    rw [List.cons_append]
    by_cases opens : a.key = "recipient"
    · simp only [groups, if_pos opens]
      rw [ih]
      cases groups (some { recipient := a.value }) rest with
      | error problem => rfl
      | ok found => simp [Except.map]
    · by_cases sender : a.key = "sender"
      · simp only [groups, if_neg opens, if_pos sender]
        cases current with
        | none => rfl
        | some t => exact ih _
      · by_cases amount : a.key = "amount"
        · simp only [groups, if_neg opens, if_neg sender, if_pos amount]
          cases current with
          | none => rfl
          | some t => exact ih _
        · simp only [groups, if_neg opens, if_neg sender, if_neg amount]
          exact ih current

theorem groups_joined {events : List Event} (readable : Readable events) :
    groups none (joined "transfer" events).attributes = .ok (events.flatMap listOf) := by
  induction events with
  | nil => rfl
  | cons e rest ih =>
    have later := ih fun x member => readable x (List.mem_cons_of_mem _ member)
    have own := groups_of_ofEvent (readable e List.mem_cons_self)
    change groups none (e.attributes ++ (joined "transfer" rest).attributes) = _
    rw [groups_append later, own]
    rfl

theorem ofEvent_joined {events : List Event} (readable : Readable events) :
    ofEvent (joined "transfer" events) = .ok (events.flatMap listOf) := by
  have kind : (joined "transfer" events).kind = "transfer" := rfl
  rw [ofEvent, if_pos kind, groups_joined readable]

theorem readable_joined {events : List Event} (readable : Readable events) :
    Readable [joined "transfer" events] := by
  intro e member
  rw [List.mem_singleton.mp member, listOf, ofEvent_joined readable]

theorem flatMap_listOf_joined {events : List Event} (readable : Readable events) :
    [joined "transfer" events].flatMap listOf = events.flatMap listOf := by
  rw [List.flatMap_singleton, listOf, ofEvent_joined readable]

/-- What reads transfer events as the list of all their groups does not see the merge. -/
theorem merged_eq {α : Type} {read : List Event → α} {through : List Transfer → α} {l : LogEntry}
    (separable : l.Separable)
    (reads : ∀ events, Readable events → read events = through (events.flatMap listOf)) :
    read (l.merged.ofKind "transfer") = read (l.ofKind "transfer") := by
  have readable := readable_of_isOk separable.transfers
  apply merged_congr
  rw [reads _ (readable_joined readable), reads _ readable, flatMap_listOf_joined readable]

theorem foldAll_eq {α : Type} (add : α → Transfer → Except DecodeError α) (start : α)
    {events : List Event} (readable : Readable events) :
    foldAll add start events = (events.flatMap listOf).foldlM add start := by
  induction events generalizing start with
  | nil => rfl
  | cons e rest ih =>
    have later acc := ih acc fun x member => readable x (List.mem_cons_of_mem _ member)
    rw [foldAll, List.foldlM_cons, readable e List.mem_cons_self, List.flatMap_cons,
      List.foldlM_append]
    exact congrArg _ (funext later)

theorem foldAll_merged {α : Type} (add : α → Transfer → Except DecodeError α) (start : α)
    {l : LogEntry} (separable : l.Separable) :
    foldAll add start (l.merged.ofKind "transfer") = foldAll add start (l.ofKind "transfer") :=
  merged_eq separable fun _ readable => foldAll_eq add start readable

end Transfer

end TaxLedger
