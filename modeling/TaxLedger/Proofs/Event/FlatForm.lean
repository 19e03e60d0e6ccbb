import Mathlib.Logic.Function.Basic
import TaxLedger.Proofs.Event.ByMessage
import TaxLedger.Proofs.Text.Digits

/-!
The flat form of log entries. A node may cut the events of an entry into pieces, tag each piece with
the index of its message and mix the pieces of all messages with events of no message. Gathering such
events by message gives the entries back, whatever was cut and mixed (`groupByMessage_of_flatForm`).
-/

namespace TaxLedger

/-- Log entries as nodes give them that do not tag events. -/
structure LegacyLogs (logs : List LogEntry) : Prop where
  sorted : Sorted logs
  filled : ∀ l ∈ logs, l.events ≠ []
  single : ∀ l ∈ logs, (kinds l.events).Nodup
  untagged : ∀ l ∈ logs, ∀ e ∈ l.events, e.has messageTag = false

/-- Pieces of events that each have a kind of their own: the pieces of one kind, put together, are its
event, and the first pieces come in the order of the events. -/
structure Cut (whole pieces : List Event) : Prop where
  order : (kinds pieces).eraseDups = kinds whole
  joined : ∀ e ∈ whole, attributesOf e.kind pieces = e.attributes

/-- The second event is the first with a tag of message `index` somewhere among its attributes. -/
inductive Tagged (index : Int) : Event → Event → Prop
  | mark (kind : String) (before after : List Attribute) (tag : String)
      (readable : Text.int64? tag = some index) :
      Tagged index ⟨kind, before ++ after⟩ ⟨kind, before ++ ⟨messageTag, tag⟩ :: after⟩

/-- Events that mix the tagged `pieces` of all messages, those of one message in their order, with
events of no message. -/
inductive Mixed : (pieces : Int → List Event) → List Event → Prop
  | done : Mixed (fun _ => []) []
  | loose {pieces : Int → List Event} {e : Event} {rest : List Event}
      (free : e.messageIndex? = none) (mixed : Mixed pieces rest) : Mixed pieces (e :: rest)
  | piece {pieces : Int → List Event} {index : Int} {p e : Event} {rest : List Event}
      (tagged : Tagged index p e) (mixed : Mixed pieces rest) :
      Mixed (Function.update pieces index (p :: pieces index)) (e :: rest)

/-- Flat events that tell what the log entries tell. -/
def FlatForm (logs : List LogEntry) (events : List Event) : Prop :=
  ∃ pieces, Mixed pieces events ∧ (∀ l ∈ logs, Cut l.events (pieces l.msgIndex)) ∧
    ∀ index, (∀ l ∈ logs, l.msgIndex ≠ index) → pieces index = []

/-! ### Cutting -/

theorem eraseDups_of_nodup {names : List String} (single : names.Nodup) : names.eraseDups = names := by
  induction names with
  | nil => rfl
  | cons name rest ih =>
    obtain ⟨fresh, later⟩ := List.nodup_cons.mp single
    have kept : (rest.filter fun other => !other == name) = rest :=
      List.filter_eq_self.mpr fun other member => by
        have apart : other ≠ name := fun equal => fresh (equal ▸ member)
        simpa using apart
    rw [List.eraseDups_cons, kept, ih later]

theorem eraseDups_append_again {names : List String} {name : String} (old : name ∈ names)
    (rest : List String) : (names ++ name :: rest).eraseDups = (names ++ rest).eraseDups := by
  rw [List.eraseDups_append, List.eraseDups_append, List.cons_removeAll]
  simp [old]

/-- Events that are left whole are pieces of themselves. -/
theorem Cut.whole {events : List Event} (single : (kinds events).Nodup) : Cut events events where
  order := eraseDups_of_nodup single
  joined _ member := attributesOf_of_mem single member

/-- A piece may be cut in two, and pieces of other kinds may come in between. -/
theorem Cut.split {whole before between after : List Event} {kind : String}
    {front back : List Attribute}
    (cut : Cut whole (before ++ ⟨kind, front ++ back⟩ :: (between ++ after)))
    (apart : kind ∉ kinds between) :
    Cut whole (before ++ ⟨kind, front⟩ :: (between ++ ⟨kind, back⟩ :: after)) where
  order := by
    rw [← cut.order]
    simp only [kinds_append, kinds_cons]
    have old : kind ∈ kinds before ++ kind :: kinds between := by simp
    have again := eraseDups_append_again old (kinds after)
    simpa only [List.append_assoc, List.cons_append] using again
  joined e member := by
    rw [← cut.joined e member]
    simp only [attributesOf_append, attributesOf_cons]
    by_cases own : kind = e.kind
    · simp [own, attributesOf_eq_nil (own ▸ apart)]
    · simp [own]

/-- Cutting adds no tags. -/
theorem Cut.untagged {whole pieces : List Event} (cut : Cut whole pieces)
    (plain : ∀ e ∈ whole, e.has messageTag = false) {p : Event} (member : p ∈ pieces) :
    p.has messageTag = false := by
  have kind : p.kind ∈ kinds whole := by
    rw [← cut.order, List.mem_eraseDups]
    exact List.mem_map_of_mem member
  obtain ⟨e, inside, same⟩ := List.mem_map.mp kind
  have clean := plain e inside
  rw [Event.has, List.any_eq_false] at clean ⊢
  intro a present
  refine clean a ?_
  rw [← cut.joined e inside]
  exact List.mem_flatMap.mpr ⟨p, List.mem_filter.mpr ⟨member, by simp [same]⟩, present⟩

theorem Cut.ne_nil {whole pieces : List Event} (cut : Cut whole pieces) (filled : whole ≠ []) :
    pieces ≠ [] := by
  rintro rfl
  exact filled (List.map_eq_nil_iff.mp cut.order.symm)

/-- Merging undoes the cuts. -/
theorem Cut.mergeAll {whole pieces : List Event} (cut : Cut whole pieces) :
    mergeAll pieces = whole := by
  have order : kinds (TaxLedger.mergeAll pieces) = kinds whole := by rw [kinds_mergeAll, cut.order]
  refine kinds_ext (nodup_kinds_mergeAll pieces) order fun e member => ?_
  have known : e.kind ∈ kinds whole := order ▸ List.mem_map_of_mem member
  obtain ⟨w, inside, same⟩ := List.mem_map.mp known
  have single : (kinds whole).Nodup := order ▸ nodup_kinds_mergeAll pieces
  rw [attributesOf_mergeAll, ← same, cut.joined w inside, attributesOf_of_mem single inside]

/-! ### Tagging and mixing -/

/-- The index in print is a tag. -/
theorem Tagged.ofDecimal {index : Int} (low : int64Min ≤ index) (high : index ≤ int64Max)
    (kind : String) (before after : List Attribute) :
    Tagged index ⟨kind, before ++ after⟩
      ⟨kind, before ++ ⟨messageTag, toString index⟩ :: after⟩ :=
  .mark kind before after _ (Text.int64?_toString low high)

theorem messageIndex?_of_untagged {e : Event} (plain : e.has messageTag = false) :
    e.messageIndex? = none := by
  have absent : e.find? messageTag = none :=
    Event.find?_eq_none_iff.mpr fun a member => by simpa using List.any_eq_false.mp plain a member
  rw [Event.messageIndex?, absent]
  rfl

theorem messageIndex?_of_tagged {index : Int} {p e : Event} (tagged : Tagged index p e)
    (plain : p.has messageTag = false) : e.messageIndex? = some index := by
  obtain ⟨kind, before, after, tag, readable⟩ := tagged
  refine Event.messageIndex?_eq_some_iff.mpr ⟨before, tag, after, rfl, fun a member => ?_, readable⟩
  simpa using List.any_eq_false.mp plain a (List.mem_append_left _ member)

theorem untagged_of_tagged {index : Int} {p e : Event} (tagged : Tagged index p e)
    (plain : p.has messageTag = false) : e.untagged = p := by
  obtain ⟨kind, before, after, tag, readable⟩ := tagged
  have clean : ((before ++ after).filter fun a => a.key != messageTag) = before ++ after :=
    List.filter_eq_self.mpr fun a member => by
      have apart := List.any_eq_false.mp plain a member
      simpa using apart
  rw [List.filter_append] at clean
  simpa [Event.untagged] using clean

/-- The events of a message are its pieces, however they are mixed with others. -/
theorem eventsOf_of_mixed {pieces : Int → List Event} {events : List Event}
    (mixed : Mixed pieces events) (plain : ∀ index, ∀ p ∈ pieces index, p.has messageTag = false)
    (index : Int) : (eventsOf index events).map Event.untagged = pieces index := by
  induction mixed with
  | done => rfl
  | loose free _ ih =>
    rw [← ih plain]
    simp [eventsOf, free]
  | @piece pieces own p e rest tagged _ ih =>
    have first : p.has messageTag = false :=
      plain own p (by rw [Function.update_self]; exact List.mem_cons_self)
    have others : ∀ index, ∀ q ∈ pieces index, q.has messageTag = false := by
      intro index q member
      refine plain index q ?_
      by_cases same : index = own
      · subst same
        rw [Function.update_self]
        exact List.mem_cons_of_mem _ member
      · rwa [Function.update_of_ne same]
    have tail := ih others
    by_cases same : index = own
    · subst same
      rw [Function.update_self, ← tail]
      simp [eventsOf, messageIndex?_of_tagged tagged first, untagged_of_tagged tagged first]
    · have apart : ¬own = index := fun equal => same equal.symm
      rw [Function.update_of_ne same, ← tail]
      simp [eventsOf, messageIndex?_of_tagged tagged first, apart]

/-! ### Gathering flat events -/

/-- Gathering the flat form of log entries by message gives the entries back. -/
theorem groupByMessage_of_flatForm {logs : List LogEntry} {events : List Event}
    (legacy : LegacyLogs logs) (flat : FlatForm logs events) : groupByMessage events = logs := by
  obtain ⟨pieces, mixed, cut, absent⟩ := flat
  have plain : ∀ index, ∀ p ∈ pieces index, p.has messageTag = false := by
    intro index p member
    by_cases known : ∃ l ∈ logs, l.msgIndex = index
    · obtain ⟨l, inside, rfl⟩ := known
      exact (cut l inside).untagged (legacy.untagged l inside) member
    · rw [absent index fun l inside same => known ⟨l, inside, same⟩] at member
      cases member
  -- Both are in order, so that it is enough to look one message up in each.
  refine sorted_ext (groupByMessage_sorted events) legacy.sorted fun index => ?_
  have own := eventsOf_of_mixed mixed plain index
  rw [forMessage?_groupByMessage, own]
  cases found : LogEntry.forMessage? logs index with
  | none =>
    have none : pieces index = [] := absent index fun l inside same => by
      rw [← same, forMessage?_of_mem legacy.sorted inside] at found
      cases found
    rw [none] at own
    rw [if_pos (List.map_eq_nil_iff.mp own)]
  | some l =>
    obtain ⟨inside, rfl⟩ := index_of_forMessage? found
    have filled := (cut l inside).ne_nil (legacy.filled l inside)
    rw [if_neg fun empty => filled (by rw [← own, empty]; rfl), (cut l inside).mergeAll]

end TaxLedger
