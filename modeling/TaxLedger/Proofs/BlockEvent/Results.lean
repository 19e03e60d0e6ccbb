import Mathlib.Logic.Basic
import TaxLedger.BlockEvent.Chain

/-!
Block results of older and of newer nodes. Splitting one marked list by its modes gives the lists of
the beginning and of the end back, however the two were mixed and wherever the marks stand, and it fails
only at an event that does not carry exactly one of the modes (`normalize_woven`).
-/

namespace TaxLedger.BlockEvent

variable {mode other : String} {e f : Event} {beginEvents endEvents events : List Event}

def Carries (mode : String) (e : Event) : Prop := ⟨modeKey, mode⟩ ∈ e.attributes

/-- The second event is the first with one or more marks of a mode, each anywhere among its
attributes. -/
inductive Marked (mode : String) (e : Event) : Event → Prop
  | once {before after : List Attribute} (parts : e.attributes = before ++ after) :
      Marked mode e ⟨e.kind, before ++ ⟨modeKey, mode⟩ :: after⟩
  | again {kind : String} {before after : List Attribute} (marked : Marked mode e ⟨kind, before ++ after⟩) :
      Marked mode e ⟨kind, before ++ ⟨modeKey, mode⟩ :: after⟩

/-- The marked events of the beginning and of the end in one list, those of each in their order. -/
inductive Woven : (beginEvents endEvents events : List Event) → Prop
  | done : Woven [] [] []
  | first {e f : Event} {beginEvents endEvents events : List Event}
      (marked : Marked "BeginBlock" e f) (woven : Woven beginEvents endEvents events) :
      Woven (e :: beginEvents) endEvents (f :: events)
  | last {e f : Event} {beginEvents endEvents events : List Event}
      (marked : Marked "EndBlock" e f) (woven : Woven beginEvents endEvents events) :
      Woven beginEvents (e :: endEvents) (f :: events)

/-! ### Marks -/

theorem hasMode_iff : hasMode e mode = true ↔ Carries mode e := by
  rw [hasMode, List.any_eq_true, Carries]
  constructor
  · rintro ⟨⟨key, value⟩, member, same⟩
    simp only [Bool.and_eq_true, beq_iff_eq] at same
    obtain ⟨rfl, rfl⟩ := same
    exact member
  · intro member
    exact ⟨_, member, by simp⟩

theorem not_carries_of_plain (plain : e.has modeKey = false) (mode : String) : ¬Carries mode e := by
  intro carried
  have apart := List.any_eq_false.mp plain _ carried
  simp at apart

theorem Marked.carries (marked : Marked mode e f) : Carries mode f := by
  cases marked with
  | once parts => exact List.mem_append_right _ List.mem_cons_self
  | again marked => exact List.mem_append_right _ List.mem_cons_self

/-- A mark of one mode brings no other mode. -/
theorem Marked.carries_other (marked : Marked mode e f) (apart : other ≠ mode) :
    Carries other f ↔ Carries other e := by
  have skip (before after : List Attribute) :
      (⟨modeKey, other⟩ : Attribute) ∈ before ++ ⟨modeKey, mode⟩ :: after ↔
        ⟨modeKey, other⟩ ∈ before ++ after := by
    simp [apart]
  induction marked with
  | once parts => rw [Carries, Carries, parts, skip]
  | again _ ih => exact (skip _ _).trans ih

theorem Marked.hasMode (marked : Marked mode e f) : BlockEvent.hasMode f mode = true :=
  hasMode_iff.mpr marked.carries

theorem Marked.hasMode_other (marked : Marked mode e f) (plain : e.has modeKey = false)
    (other : String) (apart : other ≠ mode) : BlockEvent.hasMode f other = false := by
  rw [← Bool.not_eq_true, hasMode_iff, marked.carries_other apart]
  exact not_carries_of_plain plain other

theorem Marked.withoutMode (marked : Marked mode e f) :
    BlockEvent.withoutMode f = BlockEvent.withoutMode e := by
  have drop (before after : List Attribute) :
      (before ++ ⟨modeKey, mode⟩ :: after).filter (fun a => a.key != modeKey) =
        (before ++ after).filter fun a => a.key != modeKey := by
    simp
  induction marked with
  | once parts => rw [BlockEvent.withoutMode, drop, ← parts, BlockEvent.withoutMode]
  | again _ ih =>
    rw [← ih, BlockEvent.withoutMode, drop, BlockEvent.withoutMode]

theorem withoutMode_of_plain (plain : e.has modeKey = false) : withoutMode e = e := by
  have kept : e.attributes.filter (fun a => a.key != modeKey) = e.attributes := by
    refine List.filter_eq_self.mpr fun a member => ?_
    have apart := List.any_eq_false.mp plain a member
    simpa using apart
  rw [withoutMode, kept]

/-! ### Splitting by mode -/

theorem addFinalized_of_woven (woven : Woven beginEvents endEvents events)
    (plain : ∀ e ∈ beginEvents ++ endEvents, e.has modeKey = false) (r : Results) :
    r.addFinalized events =
      .ok ⟨r.height, r.beginEvents ++ beginEvents, r.endEvents ++ endEvents⟩ := by
  induction woven generalizing r with
  | done => simp [Results.addFinalized]
  | @first e f beginEvents endEvents events marked _ ih =>
    obtain ⟨bare, rest⟩ := List.forall_mem_cons.mp plain
    have ends := marked.hasMode_other bare "EndBlock" (by decide)
    have back : withoutMode f = e := marked.withoutMode.trans (withoutMode_of_plain bare)
    simp only [Results.addFinalized, marked.hasMode, ends, back]
    rw [ih rest, List.append_assoc, List.singleton_append]
  | @last e f beginEvents endEvents events marked _ ih =>
    have bare : e.has modeKey = false := plain e (by simp)
    have rest : ∀ x ∈ beginEvents ++ endEvents, x.has modeKey = false := by
      intro x member
      refine plain x ?_
      rcases List.mem_append.mp member with early | late
      · exact List.mem_append_left _ early
      · exact List.mem_append_right _ (List.mem_cons_of_mem _ late)
    have begins := marked.hasMode_other bare "BeginBlock" (by decide)
    have back : withoutMode f = e := marked.withoutMode.trans (withoutMode_of_plain bare)
    simp only [Results.addFinalized, begins, marked.hasMode, back]
    rw [ih rest, List.append_assoc, List.singleton_append]

/-- One event without exactly one mode is enough for a failure. -/
theorem addFinalized_fails_iff (r : Results) :
    (∃ reason, r.addFinalized events = .error reason) ↔
      ∃ e ∈ events, hasMode e "BeginBlock" = hasMode e "EndBlock" := by
  induction events generalizing r with
  | nil => simp [Results.addFinalized]
  | cons e rest ih =>
    simp only [List.mem_cons, exists_eq_or_imp, Results.addFinalized]
    cases begins : hasMode e "BeginBlock" <;> cases ends : hasMode e "EndBlock" <;> simp [ih]

/-- Newer nodes tell what older nodes tell: a list in which the events of the beginning and of the end
are marked and mixed reads as the two lists apart, for every handler. Results cannot be read exactly
when an event of such a list carries both modes or none. -/
theorem normalize_woven :
    (∀ (height : Int) (beginEvents endEvents events : List Event),
      (∀ e ∈ beginEvents ++ endEvents, e.has modeKey = false) →
      Woven beginEvents endEvents events →
      let older : RawResults := ⟨height, some beginEvents, some endEvents, none⟩
      let newer : RawResults := ⟨height, none, none, some events⟩
      newer.normalize = .ok ⟨height, beginEvents, endEvents⟩ ∧ newer.normalize = older.normalize ∧
        ∀ handlers : Handlers,
          newer.normalize.map handlers.process = older.normalize.map handlers.process) ∧
    ∀ raw : RawResults, (∃ reason, raw.normalize = .error reason) ↔
      ∃ e ∈ raw.finalizeEvents.getD [],
        (Carries "BeginBlock" e ∧ Carries "EndBlock" e) ∨
          (¬Carries "BeginBlock" e ∧ ¬Carries "EndBlock" e) := by
  constructor
  · intro height beginEvents endEvents events plain woven older newer
    have split : newer.normalize = .ok ⟨height, beginEvents, endEvents⟩ :=
      addFinalized_of_woven woven plain ⟨height, [], []⟩
    have same : newer.normalize = older.normalize := split
    exact ⟨split, same, fun handlers => by rw [same]⟩
  · intro raw
    rw [RawResults.normalize, addFinalized_fails_iff]
    refine exists_congr fun e => and_congr_right fun _ => ?_
    rw [Bool.eq_iff_iff, hasMode_iff, hasMode_iff]
    exact iff_iff_and_or_not_and_not

/-- A settlement comes before the reward of the block's beginning, which is marked twice. -/
theorem normalize_woven_of_reward :
    let receiver : Attribute := ⟨"receiver", "osmo1a"⟩
    let amount : Attribute := ⟨"amount", "5uosmo"⟩
    let reward : Event := ⟨"distribution", [receiver, amount]⟩
    let swap : Event := ⟨"swap_transacted", [⟨"pool_id", "1"⟩]⟩
    let events : List Event :=
      [⟨"swap_transacted", [⟨"pool_id", "1"⟩, ⟨"mode", "EndBlock"⟩]⟩,
        ⟨"distribution", [⟨"mode", "BeginBlock"⟩, receiver, ⟨"mode", "BeginBlock"⟩, amount]⟩]
    RawResults.normalize ⟨10, none, none, some events⟩ = .ok ⟨10, [reward], [swap]⟩ ∧
      ∃ reason, RawResults.normalize ⟨10, none, none, some [swap]⟩ = .error reason := by
  intro receiver amount reward swap events
  have closing : Marked "EndBlock" swap ⟨"swap_transacted", [⟨"pool_id", "1"⟩, ⟨"mode", "EndBlock"⟩]⟩ :=
    @Marked.once _ swap [⟨"pool_id", "1"⟩] [] rfl
  have begun : Marked "BeginBlock" reward
      ⟨"distribution", [⟨"mode", "BeginBlock"⟩, receiver, ⟨"mode", "BeginBlock"⟩, amount]⟩ :=
    @Marked.again _ _ _ [] _ (@Marked.once _ reward [receiver] [amount] rfl)
  have woven : Woven [reward] [swap] events := .last closing (.first begun .done)
  refine ⟨(normalize_woven.1 10 [reward] [swap] events (by decide) woven).1, ?_⟩
  refine (normalize_woven.2 ⟨10, none, none, some [swap]⟩).mpr ⟨swap, List.mem_cons_self, .inr ?_⟩
  constructor <;> exact not_carries_of_plain (by decide) _

end TaxLedger.BlockEvent
