import Mathlib.Data.List.Forall2
import TaxLedger.BlockEvent.Chain
import TaxLedger.Proofs.Bytes.Base64
import TaxLedger.Proofs.Bytes.Utf8

/-!
Reward distributions of nodes that write attributes in base64. No text becomes the key of a receiver or
of an amount, so the plain handler refuses what such a node writes, and the handler behind it reads what
the plain one reads from the attributes as they are elsewhere (`process_told`).
-/

namespace TaxLedger.BlockEvent.Reward

variable {e f : Event} {events older : List Event}

/-- A text as older nodes write it. -/
def written (text : String) : String := Base64.encode (Utf8.encode text)

def writtenAttribute (a : Attribute) : Attribute := ⟨written a.key, written a.value⟩

def writtenEvent (e : Event) : Event := ⟨e.kind, e.attributes.map writtenAttribute⟩

/-- An event as one node or another tells it: a distribution may have all its attributes in base64. -/
inductive Told (e : Event) : Event → Prop
  | plain : Told e e
  | base64 (distribution : e.kind = eventKind) : Told e (writtenEvent e)

/-! ### Texts -/

theorem decode_written (text : String) : Encoding.base64.decode (written text) = .ok text := by
  simp only [Encoding.decode, written, Base64.decode?_encode, Utf8.decode?_encode]

theorem written_ne {name : String} (unreadable : (Encoding.base64.decode name).toOption = none)
    (text : String) : written text ≠ name := by
  rintro rfl
  rw [decode_written] at unreadable
  cases unreadable

/-- As base64 this key stands for bytes that are no text. -/
theorem written_ne_receiver (text : String) : written text ≠ "receiver" :=
  written_ne (by decide) text

/-- This key has no length that base64 has. -/
theorem written_ne_amount (text : String) : written text ≠ "amount" :=
  written_ne (by decide) text

/-! ### Attributes -/

section
variable {encoding : Encoding} {a : Attribute} (receiver amount : String) (rest : List Attribute)

theorem attributesOf_cons {key value : String} (named : encoding.decode a.key = .ok key)
    (told : encoding.decode a.value = .ok value) :
    attributesOf encoding receiver amount (a :: rest) =
      if key = "receiver" then attributesOf encoding value amount rest
      else if key = "amount" then attributesOf encoding receiver value rest
      else attributesOf encoding receiver amount rest := by
  rw [attributesOf, named, told]
  rfl

theorem attributesOf_base64 (attributes : List Attribute) :
    attributesOf .base64 receiver amount (attributes.map writtenAttribute) =
      attributesOf .plain receiver amount attributes := by
  induction attributes generalizing receiver amount with
  | nil => rfl
  | cons a rest ih =>
    rw [List.map_cons, attributesOf_cons _ _ _ (decode_written a.key) (decode_written a.value),
      attributesOf_cons _ _ _ rfl rfl, ih, ih, ih]

theorem attributesOf_plain (attributes : List Attribute) :
    attributesOf .plain receiver amount (attributes.map writtenAttribute) = .ok (receiver, amount) := by
  induction attributes with
  | nil => rfl
  | cons a rest ih =>
    have receivers : (writtenAttribute a).key ≠ "receiver" := written_ne_receiver a.key
    have amounts : (writtenAttribute a).key ≠ "amount" := written_ne_amount a.key
    rw [List.map_cons, attributesOf_cons _ _ _ rfl rfl, if_neg receivers, if_neg amounts, ih]

end

/-! ### Handlers -/

theorem read_base64 (e : Event) :
    (handler .base64).read (writtenEvent e) = (handler .plain).read e := by
  simp only [handler, read, writtenEvent, attributesOf_base64]

theorem read_plain (e : Event) : ∃ problem, (handler .plain).read (writtenEvent e) = .error problem := by
  refine ⟨.logFormat eventKind "rewards received or address were not present", ?_⟩
  simp only [handler, read, writtenEvent, attributesOf_plain]
  rfl

theorem handlersFor_other {kind : String} (other : kind ≠ eventKind) :
    rewardTable.handlersFor kind = [] := by
  have apart : (eventKind == kind) = false := by simpa using Ne.symm other
  simp [rewardTable, HandlerTable.add, HandlerTable.handlersFor, apart]

theorem readEvent_plain {reading : Reading} {phase : Phase} (distribution : e.kind = eventKind)
    (accepted : (handler .plain).read e = .ok reading) :
    rewardTable.readEvent phase e = .ok reading.records := by
  have tried : rewardTable.handlersFor e.kind = [handler .plain, handler .base64] := by
    rw [distribution]
    rfl
  rw [HandlerTable.readEvent, tried]
  simp only [HandlerTable.firstReading, accepted]

theorem readEvent_written {reading : Reading} {phase : Phase} (distribution : e.kind = eventKind)
    (accepted : (handler .plain).read e = .ok reading) :
    rewardTable.readEvent phase (writtenEvent e) = .ok reading.records := by
  have tried : rewardTable.handlersFor (writtenEvent e).kind = [handler .plain, handler .base64] := by
    rw [writtenEvent, distribution]
    rfl
  obtain ⟨problem, refused⟩ := read_plain e
  rw [HandlerTable.readEvent, tried]
  simp only [HandlerTable.firstReading, refused, read_base64, accepted]

/-- One event gives the same records however it is told. -/
theorem readEvent_told (phase : Phase) (told : Told e f)
    (accepted : e.kind = eventKind → ∃ reading, (handler .plain).read e = .ok reading) :
    ∃ records, rewardTable.readEvent phase e = .ok records ∧
      rewardTable.readEvent phase f = .ok records := by
  by_cases distribution : e.kind = eventKind
  · obtain ⟨reading, accepted⟩ := accepted distribution
    refine ⟨reading.records, readEvent_plain distribution accepted, ?_⟩
    cases told with
    | plain => exact readEvent_plain distribution accepted
    | base64 => exact readEvent_written distribution accepted
  · cases told with
    | plain =>
      have skipped : rewardTable.readEvent phase e = .ok [] := by
        rw [HandlerTable.readEvent, handlersFor_other distribution]
      exact ⟨[], skipped, skipped⟩
    | base64 named => exact absurd named distribution

/-! ### Blocks -/

theorem process_empty (phase : Phase) (events : List Event) :
    ({} : HandlerTable).process phase events = .ok [] := by
  have silent : events.mapM (({} : HandlerTable).readEvent phase) = .ok (events.map fun _ => []) :=
    List.mapM_pure
  have nothing : (events.map fun _ => ([] : List Record)).flatten = [] := by simp
  rw [HandlerTable.process, silent]
  exact congrArg Except.ok nothing

/-- Only the beginning of a block counts. -/
theorem process_eq (results : Results) :
    (Handlers.forChain osmosisChain).process results =
      rewardTable.process .beginBlock results.beginEvents := by
  have parts : (Handlers.forChain osmosisChain).process results = (do
      let first ← rewardTable.process .beginBlock results.beginEvents
      let last ← ({} : HandlerTable).process .endBlock results.endEvents
      return first ++ last) := rfl
  rw [parts, process_empty]
  cases rewardTable.process .beginBlock results.beginEvents with
  | error problem => rfl
  | ok records => exact congrArg Except.ok (List.append_nil records)

theorem mapM_told (phase : Phase) (told : List.Forall₂ Told events older)
    (accepted : ∀ e ∈ events, e.kind = eventKind → ∃ reading, (handler .plain).read e = .ok reading) :
    ∃ lists, events.mapM (rewardTable.readEvent phase) = .ok lists ∧
      older.mapM (rewardTable.readEvent phase) = .ok lists := by
  induction told with
  | nil => exact ⟨[], rfl, rfl⟩
  | @cons e f events older first _ ih =>
    obtain ⟨here, later⟩ := List.forall_mem_cons.mp accepted
    obtain ⟨records, read, again⟩ := readEvent_told phase first here
    obtain ⟨lists, rest, restAgain⟩ := ih later
    refine ⟨records :: lists, ?_, ?_⟩
    · rw [List.mapM_cons, read, rest]
      rfl
    · rw [List.mapM_cons, again, restAgain]
      rfl

/-- Older nodes give the same rewards. At the beginning of a block in which the plain handler accepts
every distribution, any of the distributions may be written in base64: the records of the block are the
same in the same order. -/
theorem process_told (height : Int) (endEvents : List Event) (told : List.Forall₂ Told events older)
    (accepted : ∀ e ∈ events, e.kind = eventKind → ∃ reading, (handler .plain).read e = .ok reading) :
    ∃ records,
      (Handlers.forChain osmosisChain).process ⟨height, events, endEvents⟩ = .ok records ∧
        (Handlers.forChain osmosisChain).process ⟨height, older, endEvents⟩ = .ok records := by
  obtain ⟨lists, read, again⟩ := mapM_told .beginBlock told accepted
  refine ⟨lists.flatten, ?_, ?_⟩
  · rw [process_eq, HandlerTable.process, read]
    rfl
  · rw [process_eq, HandlerTable.process, again]
    rfl

/-- Minted coins, a reward as it is and a reward in base64. -/
theorem process_told_of_older :
    let minted : Event := ⟨"mint", [⟨"amount", "1uosmo"⟩]⟩
    let first : Event := ⟨"distribution", [⟨"receiver", "osmo1a"⟩, ⟨"amount", "5uosmo"⟩]⟩
    let second : Event := ⟨"distribution", [⟨"receiver", "osmo1b"⟩, ⟨"amount", "7uosmo,2uion"⟩]⟩
    let older : Event := ⟨"distribution",
      [⟨"cmVjZWl2ZXI=", "b3NtbzFi"⟩, ⟨"YW1vdW50", "N3Vvc21vLDJ1aW9u"⟩]⟩
    let records : List Record := [⟨.rewardDistribution, "osmo1a", ⟨5, "uosmo"⟩⟩,
      ⟨.rewardDistribution, "osmo1b", ⟨7, "uosmo"⟩⟩, ⟨.rewardDistribution, "osmo1b", ⟨2, "uion"⟩⟩]
    (Handlers.forChain osmosisChain).process ⟨100, [minted, first, second], []⟩ = .ok records ∧
      (Handlers.forChain osmosisChain).process ⟨100, [minted, first, older], []⟩ = .ok records := by
  intro minted first second older records
  have same : older = writtenEvent second := by
    simp only [second, writtenEvent, List.map, writtenAttribute, written, Utf8.encode_eq]
    decide
  have told : List.Forall₂ Told [minted, first, second] [minted, first, older] := by
    rw [same]
    exact .cons .plain (.cons .plain (.cons (.base64 rfl) .nil))
  have accepted : ∀ e ∈ [minted, first, second], e.kind = eventKind →
      ∃ reading, (handler .plain).read e = .ok reading := by
    simp only [List.forall_mem_cons, List.not_mem_nil, false_implies, implies_true, and_true]
    exact ⟨fun distribution => absurd distribution (by decide), fun _ => ⟨_, rfl⟩, fun _ => ⟨_, rfl⟩⟩
  obtain ⟨found, read, again⟩ := process_told 100 [] told accepted
  have listed : (Handlers.forChain osmosisChain).process ⟨100, [minted, first, second], []⟩ =
      .ok records := by
    decide
  obtain rfl : found = records := Except.ok.inj (read.symm.trans listed)
  exact ⟨read, again⟩

end TaxLedger.BlockEvent.Reward
