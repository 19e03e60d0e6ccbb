import TaxLedger.Proofs.Pipeline.Plan

/-!
Runs in which nobody asks for a stop. No worker leaves before the queue is closed and empty (`Calm`),
and the dispatcher of a list deals with its heights one after the other (`Covered`).
-/

namespace TaxLedger.Pipeline

variable {c : Course} {s t : State} {move : Move} {moves : List Move}

def Move.isCalm : Move → Bool
  | .send stop => !stop
  | _ => true

/-- What holds as long as nobody asks for a stop. A worker leaves only behind the last height. -/
structure Calm (s : State) : Prop where
  running : s.signal.stop = false
  served : s.queue.isServed = true
  fed : s.queue.isFed = true ↔ s.closing = .notYet
  closing : s.closing = .notYet ∨ s.closing = .patient ∧ ∃ result, s.phase = .ended result
  leaving : .gone ∈ s.workers → s.queue.isExhausted = true
  ending : ∀ entry ∈ s.finished, entry.2 = .indexed ∨ entry.2 = .failed

theorem initial_calm (c : Course) (plan : Plan) : Calm (.initial c {} plan) where
  running := rfl
  served := rfl
  fed := ⟨fun _ => rfl, fun _ => rfl⟩
  closing := .inl rfl
  leaving member := by cases List.eq_of_mem_replicate member
  ending _ member := absurd member List.not_mem_nil

namespace Calm

theorem open_of_phase (calm : Calm s) (going : ∀ result, s.phase ≠ .ended result) :
    s.closing = .notYet := by
  rcases calm.closing with notYet | ⟨_, result, ended⟩
  · exact notYet
  · exact absurd ended (going result)

/-- Moves of the dispatcher that leave the queue alone. -/
theorem withPhase (calm : Calm s) (phase : Phase) (going : ∀ result, s.phase ≠ .ended result) :
    Calm { s with phase } where
  running := calm.running
  served := calm.served
  fed := calm.fed
  closing := .inl (calm.open_of_phase going)
  leaving := calm.leaving
  ending := calm.ending

/-- Moves of a worker that leave the queue alone. -/
theorem withWorker {i : Nat} {after : Worker} (calm : Calm s)
    (leaving : after = .gone → s.queue.isExhausted = true) : Calm (s.withWorker i after) where
  running := calm.running
  served := calm.served
  fed := calm.fed
  closing := calm.closing
  leaving member := by
    rcases List.mem_or_eq_of_mem_set member with old | new
    · exact calm.leaving old
    · exact leaving new.symm
  ending := calm.ending

theorem finish {i : Nat} {height : Int} {ending : Ending} (calm : Calm s)
    (proper : ending = .indexed ∨ ending = .failed) : Calm (s.finish i height ending .idle) := by
  have worked : Calm (s.withWorker i .idle) := calm.withWorker nofun
  refine { worked with ending := ?_ }
  intro entry member
  rcases List.mem_append.mp member with old | new
  · exact calm.ending entry old
  · rw [List.mem_singleton.mp new]
    exact proper

/-- While a worker finds a height, none has left. -/
theorem present_of_pop {height : Int} {queue : HeightQueue} (calm : Calm s)
    (front : s.queue.pop? = some (height, queue)) : .gone ∉ s.workers := by
  intro member
  obtain ⟨_, items, _⟩ := HeightQueue.pop?_eq_some_iff.mp front
  have exhausted := calm.leaving member
  rw [HeightQueue.isExhausted, items] at exhausted
  cases exhausted

end Calm

theorem step_calm (calm : Calm s) (quiet : move.isCalm = true) (made : Step c s move t) : Calm t := by
  cases made with
  | @sent stop _ =>
    have off : stop = false := by simpa [Move.isCalm] using quiet
    exact { calm with running := off }
  | lost => exact { calm with running := calm.running }
  | expired limited =>
    rcases calm.closing with notYet | ⟨patient, _⟩
    · rw [notYet] at limited
      cases limited
    · rw [patient] at limited
      cases limited
  | planned planning => exact calm.withPhase _ (by simp [planning])
  | learned polling | repolled polling _ | refused polling _ =>
    exact calm.withPhase _ (by simp [polling])
  | passed checking => exact calm.withPhase _ (by simp [checking])
  | cleared checking => exact calm.withPhase _ (by simp [checking])
  | unknown checking => exact calm.withPhase _ (by simp [checking])
  | handed offering _ =>
    have going := calm.open_of_phase (by simp [offering])
    refine { calm with closing := .inl going, leaving := fun member => ?_ }
    have exhausted := calm.leaving member
    simp [HeightQueue.isExhausted, calm.fed.mpr going] at exhausted
  | withdrawn offering _ => exact calm.withPhase _ (by simp [offering])
  | paused settling => exact calm.withPhase _ (by simp [settling])
  | woken pausing _ => exact calm.withPhase _ (by simp [pausing])
  | closed ended _ =>
    refine { calm with fed := ?_, closing := .inr ⟨?_, _, ended⟩, leaving := fun member => ?_ }
    · simp [HeightQueue.close, calm.running]
    · simp [calm.running]
    · have exhausted := calm.leaving member
      simp only [HeightQueue.isExhausted, HeightQueue.close, Bool.and_eq_true] at exhausted ⊢
      exact ⟨exhausted.1, rfl⟩
  | taken _ front =>
    -- A height in the queue means that no worker has left, and taking it lets none leave.
    have staying := calm.present_of_pop front
    obtain ⟨rest, _, rfl⟩ := HeightQueue.pop?_eq_some_iff.mp front
    have queued : Calm { s with queue := { s.queue with items := rest } } :=
      { calm with leaving := fun member => absurd member staying }
    exact queued.withWorker (by simp)
  | halted _ stopped =>
    rw [calm.running] at stopped
    cases stopped
  | left _ exhausted => exact calm.withWorker fun _ => exhausted
  | locked _ _ | checked _ _ | waited _ _ _ => exact calm.withWorker (by simp)
  | indexed _ => exact calm.finish (.inl rfl)
  | retried _ _ => exact calm.withWorker (by simp)
  | spent _ _ => exact calm.withWorker (by simp)
  | recorded _ => exact calm.finish (.inr rfl)
  | cutIndexing late _ | cutRecording late _ | cutIdle late _ | cutWaiting late _ =>
    rcases calm.closing with notYet | ⟨patient, _⟩
    · rw [notYet] at late
      cases late
    · rw [patient] at late
      cases late

theorem run_calm {plan : Plan} (quiet : ∀ move ∈ moves, move.isCalm = true)
    (run : follow c (.initial c {} plan) moves = some s) : Calm s :=
  run_keeps (Move.isCalm · = true) (fun _ s => Calm s) (initial_calm c plan)
    (fun _ quiet made calm => step_calm calm quiet made) quiet run

/-! ### The heights of a list -/

/-- Whether the heights of a list that the dispatcher has still to deal with are `upcoming`. -/
def Phase.Owes (upcoming : List Int) : Phase → Prop
  | .planning rest | .settling rest | .pausing rest => rest = .listed upcoming
  | .checking height rest | .offering height rest =>
    ∃ later, rest = .listed later ∧ upcoming = height :: later
  | .polling _ _ => False
  | .ended result => result = .ok () → upcoming = []

/-- The heights of a list are handed over, passed over or upcoming. -/
def Covered (heights : List Int) (passed : List Int) (s : State) : Prop :=
  ∃ upcoming, s.phase.Owes upcoming ∧
    (heights : Multiset Int) = s.handed + passed + upcoming

/-- The heights of a list are done with in their order. -/
theorem owes_of_follows {heights tips dealt : List Int} {phase : Phase} {interrupted : Prop}
    (follows : phase.Follows c (.listed heights) interrupted tips dealt) (free : ¬interrupted) :
    ∃ upcoming, phase.Owes upcoming ∧ heights = dealt ++ upcoming := by
  cases phase with
  | planning rest | settling rest | pausing rest => exact reached_listed follows
  | polling next tries =>
    obtain ⟨_, other, _⟩ := reached_listed follows
    cases other
  | checking height rest | offering height rest =>
    obtain ⟨plan, reached, turn⟩ := follows
    obtain ⟨upcoming, rfl, whole⟩ := reached_listed reached
    cases turn with
    | listed => exact ⟨_, ⟨_, rfl, rfl⟩, whole⟩
  | ended result =>
    obtain ⟨plan, reached, finished⟩ := follows
    obtain ⟨upcoming, rfl, whole⟩ := reached_listed reached
    refine ⟨upcoming, fun fine => ?_, whole⟩
    cases (finished fine).resolve_left free
    rfl

theorem run_covered {heights : List Int} (quiet : ∀ move ∈ moves, move.isCalm = true)
    (keeping : .lose ∉ moves)
    (run : follow c (.initial c {} (.listed heights)) moves = some s) :
    Covered heights (seen c passes (.initial c {} (.listed heights)) moves) s := by
  have free := not_interrupted run (fun asked => nomatch quiet _ asked) keeping
  obtain ⟨upcoming, owed, whole⟩ := owes_of_follows (run_dealt run).follows free
  refine ⟨upcoming, owed, ?_⟩
  calc (heights : Multiset Int)
      = seen c deals (.initial c {} (.listed heights)) moves + upcoming := by
        rw [Multiset.coe_add, ← whole]
    _ = s.handed + seen c passes (.initial c {} (.listed heights)) moves + upcoming := by
        rw [coe_seen_deals, run_handed run]
        rfl

end TaxLedger.Pipeline
