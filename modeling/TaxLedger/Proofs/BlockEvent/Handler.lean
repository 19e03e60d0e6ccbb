import TaxLedger.BlockEvent.Chain
import TaxLedger.Proofs.Fallback
import TaxLedger.Proofs.Result

/-!
Block events as a table of handlers reads them. A block gives the records of all its events or none: it
fails exactly at the first event that all handlers for its kind refuse, and otherwise its records are
those of its parts, one part behind the other, where events without handlers count for nothing
(`process_compositional`).
-/

namespace TaxLedger.BlockEvent.HandlerTable

variable {t : HandlerTable} {phase : Phase} {e : Event} {events others : List Event}
  {records : List Record} {problem : DecodeError}

def handles (t : HandlerTable) (kind : String) : Bool := t.handlers.any fun h => h.1 == kind

/-- The records that an event gives: those of the first of its handlers that accepts it, and none if its
kind has no handlers. -/
inductive Gives (t : HandlerTable) (e : Event) : List Record → Prop
  | skipped (unhandled : t.handles e.kind = false) : Gives t e []
  | accepted {reading : Reading}
      (first : FirstOk (fun h : Handler => h.read e) (t.handlersFor e.kind) (.ok reading)) :
      Gives t e reading.records

/-- All handlers for the kind of the event refuse it, the last one with this error. -/
def Rejects (t : HandlerTable) (e : Event) (refusal : DecodeError) : Prop :=
  FirstOk (fun h : Handler => h.read e) (t.handlersFor e.kind) (.error refusal)

def rejection (phase : Phase) (e : Event) (refusal : DecodeError) : DecodeError :=
  .logFormat e.kind ("all " ++ phase.name ++ " handlers failed, last error: " ++ refusal.message)

/-! ### Handlers of a kind -/

theorem handlersFor_eq_nil_iff {kind : String} : t.handlersFor kind = [] ↔ t.handles kind = false := by
  simp [handlersFor, handles]

theorem mem_handlersFor {kind : String} {h : Handler} :
    h ∈ t.handlersFor kind ↔ (kind, h) ∈ t.handlers := by
  simp [handlersFor]

theorem firstReading_eq_firstOk (e : Event) (problem : DecodeError) (tried : List Handler) :
    firstReading e problem tried = firstOk (fun h : Handler => h.read e) problem tried := by
  induction tried generalizing problem with
  | nil => rfl
  | cons h rest ih =>
    unfold firstReading firstOk
    cases h.read e with
    | ok reading => rfl
    | error refusal => exact ih refusal

/-! ### One event -/

theorem readEvent_of_unhandled (unhandled : t.handles e.kind = false) :
    t.readEvent phase e = .ok [] := by
  unfold readEvent
  rw [handlersFor_eq_nil_iff.mpr unhandled]

theorem readEvent_of_firstOk {result : Except DecodeError Reading}
    (first : FirstOk (fun h : Handler => h.read e) (t.handlersFor e.kind) result) :
    t.readEvent phase e = (result.map Reading.records).mapError (rejection phase e) := by
  obtain ⟨h, rest, tried⟩ := List.exists_cons_of_ne_nil first.ne_nil
  have read := first.eq (.unknownMessageType e.kind)
  rw [tried, ← firstReading_eq_firstOk] at read
  unfold readEvent
  rw [tried]
  simp only [read]
  cases result <;> rfl

theorem readEvent_eq_ok_iff : t.readEvent phase e = .ok records ↔ t.Gives e records := by
  constructor
  · intro success
    by_cases unhandled : t.handlersFor e.kind = []
    · rw [handlersFor_eq_nil_iff] at unhandled
      rw [readEvent_of_unhandled unhandled] at success
      cases success
      exact .skipped unhandled
    · obtain ⟨result, first⟩ := exists_firstOk unhandled
      rw [readEvent_of_firstOk first] at success
      cases result with
      | error refusal => cases success
      | ok reading =>
        cases success
        exact .accepted first
  · intro gives
    cases gives with
    | skipped unhandled => exact readEvent_of_unhandled unhandled
    | accepted first => exact readEvent_of_firstOk first

theorem readEvent_eq_error_iff :
    t.readEvent phase e = .error problem ↔
      ∃ refusal, t.Rejects e refusal ∧ problem = rejection phase e refusal := by
  constructor
  · intro failure
    by_cases unhandled : t.handlersFor e.kind = []
    · rw [readEvent_of_unhandled (handlersFor_eq_nil_iff.mp unhandled)] at failure
      cases failure
    · obtain ⟨result, first⟩ := exists_firstOk unhandled
      rw [readEvent_of_firstOk first] at failure
      cases result with
      | ok reading => cases failure
      | error refusal =>
        cases failure
        exact ⟨refusal, first, rfl⟩
  · rintro ⟨refusal, rejected, rfl⟩
    exact readEvent_of_firstOk rejected

theorem exists_rejects_iff :
    (∃ refusal, t.Rejects e refusal) ↔
      t.handles e.kind = true ∧
        ∀ h, (e.kind, h) ∈ t.handlers → ∃ refusal, h.read e = .error refusal := by
  have filled : t.handlersFor e.kind ≠ [] ↔ t.handles e.kind = true := by
    rw [ne_eq, handlersFor_eq_nil_iff, Bool.not_eq_false]
  simp only [← filled, ← mem_handlersFor]
  exact exists_spent_iff

/-! ### All events of a block -/

theorem process_cons (e : Event) (events : List Event) :
    t.process phase (e :: events) = (do
      let records ← t.readEvent phase e
      let others ← t.process phase events
      return records ++ others) := by
  rw [process, List.mapM_cons, process]
  cases t.readEvent phase e with
  | error problem => rfl
  | ok records => cases events.mapM (t.readEvent phase) <;> rfl

theorem process_append (events others : List Event) :
    t.process phase (events ++ others) =
      match t.process phase events, t.process phase others with
      | .ok records, .ok more => .ok (records ++ more)
      | .error problem, _ => .error problem
      | .ok _, .error problem => .error problem := by
  induction events with
  | nil =>
    have none : t.process phase [] = .ok [] := rfl
    rw [none, List.nil_append]
    cases t.process phase others <;> rfl
  | cons e events ih =>
    rw [List.cons_append, process_cons, process_cons, ih]
    cases t.readEvent phase e with
    | error problem => rfl
    | ok records =>
      cases t.process phase events with
      | error problem => rfl
      | ok own =>
        cases t.process phase others with
        | error problem => rfl
        | ok more => exact congrArg Except.ok (List.append_assoc records own more).symm

/-- Events without handlers count for nothing. -/
theorem process_filter (events : List Event) :
    t.process phase (events.filter fun e => t.handles e.kind) = t.process phase events := by
  induction events with
  | nil => rfl
  | cons e events ih =>
    by_cases handled : t.handles e.kind = true
    · rw [List.filter_cons_of_pos (by exact handled), process_cons, process_cons, ih]
    · have skipped : t.readEvent phase e = .ok [] :=
        readEvent_of_unhandled (Bool.not_eq_true _ ▸ handled)
      rw [List.filter_cons_of_neg (by exact handled), process_cons, skipped, ih]
      cases t.process phase events <;> rfl

theorem process_eq_ok_iff :
    t.process phase events = .ok records ↔
      ∃ lists, List.Forall₂ t.Gives events lists ∧ records = lists.flatten := by
  have gives : t.Gives = fun e records => t.readEvent phase e = .ok records := by
    funext e records
    exact propext readEvent_eq_ok_iff.symm
  simp only [gives, ← mapM_eq_ok_iff]
  rw [process]
  cases events.mapM (t.readEvent phase) with
  | error problem => exact ⟨nofun, nofun⟩
  | ok lists =>
    constructor
    · rintro ⟨⟩
      exact ⟨lists, rfl, rfl⟩
    · rintro ⟨own, ⟨⟩, rfl⟩
      rfl

theorem process_eq_error {problem : DecodeError} :
    t.process phase events = .error problem ↔ events.mapM (t.readEvent phase) = .error problem := by
  rw [process]
  cases events.mapM (t.readEvent phase) with
  | error own => constructor <;> (rintro ⟨⟩; rfl)
  | ok lists => exact ⟨nofun, nofun⟩

theorem process_eq_error_iff :
    t.process phase events = .error problem ↔
      ∃ before e after refusal, events = before ++ e :: after ∧
        (∀ x ∈ before, ∃ records, t.Gives x records) ∧ t.Rejects e refusal ∧
        problem = rejection phase e refusal := by
  rw [process_eq_error, mapM_eq_error_iff]
  simp only [readEvent_eq_ok_iff, readEvent_eq_error_iff]
  constructor
  · rintro ⟨before, e, after, parts, accepted, refusal, rejected, told⟩
    exact ⟨before, e, after, refusal, parts, accepted, rejected, told⟩
  · rintro ⟨before, e, after, refusal, parts, accepted, rejected, told⟩
    exact ⟨before, e, after, parts, accepted, refusal, rejected, told⟩

theorem process_fails_iff :
    (∃ problem, t.process phase events = .error problem) ↔
      ∃ e ∈ events, t.handles e.kind = true ∧
        ∀ h, (e.kind, h) ∈ t.handlers → ∃ refusal, h.read e = .error refusal := by
  simp only [process_eq_error, mapM_fails_iff]
  refine exists_congr fun e => and_congr_right fun _ => ?_
  rw [← exists_rejects_iff]
  simp only [readEvent_eq_error_iff]
  constructor
  · rintro ⟨problem, refusal, rejected, -⟩
    exact ⟨refusal, rejected⟩
  · rintro ⟨refusal, rejected⟩
    exact ⟨_, refusal, rejected, rfl⟩

/-- A block is read as a whole or not at all, and part by part. Two lists behind each other give the
records of the first and then those of the second, or the error of the first that fails; events of kinds
without handlers change nothing wherever they stand. A list fails exactly when all handlers for the kind
of one of its events refuse that event, and the error names the kind of the first such event and the
error of its last handler; every other list gives what the first handler to accept each event reads. -/
theorem process_compositional (t : HandlerTable) (phase : Phase) :
    (∀ first second : List Event,
      t.process phase (first ++ second) =
        match t.process phase first, t.process phase second with
        | .ok records, .ok more => .ok (records ++ more)
        | .error problem, _ => .error problem
        | .ok _, .error problem => .error problem) ∧
    (∀ events others : List Event,
      events.filter (fun e => t.handles e.kind) = others.filter (fun e => t.handles e.kind) →
        t.process phase events = t.process phase others) ∧
    (∀ events : List Event, (∃ problem, t.process phase events = .error problem) ↔
      ∃ e ∈ events, t.handles e.kind = true ∧
        ∀ h, (e.kind, h) ∈ t.handlers → ∃ refusal, h.read e = .error refusal) ∧
    (∀ (events : List Event) (problem : DecodeError), t.process phase events = .error problem ↔
      ∃ before e after refusal, events = before ++ e :: after ∧
        (∀ x ∈ before, ∃ records, t.Gives x records) ∧ t.Rejects e refusal ∧
        problem = .logFormat e.kind
          ("all " ++ phase.name ++ " handlers failed, last error: " ++ refusal.message)) ∧
    ∀ (events : List Event) (records : List Record), t.process phase events = .ok records ↔
      ∃ lists, List.Forall₂ t.Gives events lists ∧ records = lists.flatten := by
  refine ⟨process_append, ?_, fun _ => process_fails_iff, fun _ _ => process_eq_error_iff,
    fun _ _ => process_eq_ok_iff⟩
  intro events others same
  rw [← process_filter events, ← process_filter others, same]

/-- Minted coins count for nothing; a reward in base64 is refused by the first handler only, and a
distribution of nothing by both. -/
theorem process_compositional_of_mixed :
    let minted : Event := ⟨"mint", [⟨"amount", "1uosmo"⟩]⟩
    let plain : Event := ⟨"distribution", [⟨"receiver", "osmo1a"⟩, ⟨"amount", "5uosmo"⟩]⟩
    let older : Event := ⟨"distribution", [⟨"cmVjZWl2ZXI=", "b3NtbzFi"⟩, ⟨"YW1vdW50", "N3Vvc21v"⟩]⟩
    let empty : Event := ⟨"distribution", [⟨"nothing", "here"⟩]⟩
    let records : List Record :=
      [⟨.rewardDistribution, "osmo1b", ⟨7, "uosmo"⟩⟩, ⟨.rewardDistribution, "osmo1a", ⟨5, "uosmo"⟩⟩]
    [older, minted, plain].filter (fun e => rewardTable.handles e.kind) =
        [minted, older, plain, minted].filter (fun e => rewardTable.handles e.kind) ∧
      rewardTable.process .beginBlock [older, minted, plain] = .ok records ∧
      rewardTable.process .beginBlock [minted, older, plain, minted] = .ok records ∧
      rewardTable.process .beginBlock ([older, minted, plain] ++ [empty, plain]) =
        .error (.logFormat "distribution" "all BeginBlocker handlers failed, last error: base64") := by
  intro minted plain older empty records
  have same : [older, minted, plain].filter (fun e => rewardTable.handles e.kind) =
      [minted, older, plain, minted].filter (fun e => rewardTable.handles e.kind) := by
    decide
  have read : rewardTable.process .beginBlock [older, minted, plain] = .ok records := by
    decide
  have refused : rewardTable.process .beginBlock [empty, plain] =
      .error (.logFormat "distribution" "all BeginBlocker handlers failed, last error: base64") := by
    decide
  obtain ⟨parts, unheard, -⟩ := process_compositional rewardTable .beginBlock
  refine ⟨same, read, (unheard _ _ same).symm.trans read, ?_⟩
  rw [parts, read, refused]

end TaxLedger.BlockEvent.HandlerTable
