import TaxLedger.Proofs.Pipeline.Run

/-!
The lock of the queue. At most one worker holds it (`run_holders`), so that at most one is between its
look at the signal and its look into the queue. Behind a stop no other gets there, and each look into
the queue leaves one less (`step_readied`).
-/

namespace TaxLedger.Pipeline

variable {c : Course} {s t : State} {move : Move} {moves : List Move} {origin : Plan}
  {workers : List Worker} {i : Nat} {before after : Worker}

def State.holders (s : State) : Nat := s.workers.countP Worker.hasLock

def Worker.isReady : Worker → Bool
  | .ready => true
  | _ => false

/-- How many workers have looked at the signal and look into the queue next. -/
def State.readied (s : State) : Nat := s.workers.countP Worker.isReady

theorem readied_le_holders (s : State) : s.readied ≤ s.holders := by
  refine List.countP_mono_left fun worker _ ready => ?_
  cases worker with
  | ready => rfl
  | _ => cases ready

/-! ### One worker goes on -/

theorem countP_set_add (p : Worker → Bool) (after : Worker) (present : workers[i]? = some before) :
    (workers.set i after).countP p + (p before).toNat = workers.countP p + (p after).toNat := by
  obtain ⟨inside, rfl⟩ := List.getElem?_eq_some_iff.mp present
  have counted (holds : p workers[i] = true) : 0 < workers.countP p :=
    List.countP_pos_iff.mpr ⟨_, List.getElem_mem inside, holds⟩
  rw [List.countP_set inside]
  cases was : p workers[i] with
  | true =>
    have positive := counted was
    cases p after <;> simp <;> omega
  | false => cases p after <;> simp

theorem countP_set_le (p : Worker → Bool) (present : workers[i]? = some before)
    (kept : p after = true → p before = true) :
    (workers.set i after).countP p ≤ workers.countP p := by
  have counted := countP_set_add p after present
  cases is : p after with
  | true =>
    rw [is, kept is] at counted
    exact Nat.le_of_eq (Nat.add_right_cancel counted)
  | false =>
    rw [is] at counted
    simp only [Bool.toNat_false] at counted
    omega

/-! ### The holder of the lock -/

/-- The lock of the queue goes to one worker, and only while nobody holds it. -/
theorem step_holders (single : s.holders ≤ 1) (made : Step c s move t) : t.holders ≤ 1 := by
  have kept {i : Nat} {before after : Worker} (present : s.workers[i]? = some before)
      (kept : after.hasLock = true → before.hasLock = true) :
      (s.workers.set i after).countP Worker.hasLock ≤ 1 :=
    Nat.le_trans (countP_set_le _ present kept) single
  cases made with
  | locked idle free =>
    have nobody : s.holders = 0 := by
      rw [State.isLocked, List.any_eq_false] at free
      exact List.countP_eq_zero.mpr free
    have counted := countP_set_add Worker.hasLock .waiting idle
    rw [← State.holders, nobody] at counted
    exact Nat.le_of_eq counted
  | halted present _ | checked present _ | taken present _ | left present _ | waited present _ _
  | indexed present | retried present _ | spent present _ | recorded present
  | cutIndexing _ present | cutRecording _ present | cutIdle _ present | cutWaiting _ present =>
    exact kept present (by simp [Worker.hasLock])
  | _ => exact single

theorem run_holders {signal : Signal} (run : follow c (.initial c signal origin) moves = some s) :
    s.holders ≤ 1 := by
  refine run_invariant (fun _ s => s.holders ≤ 1) ?_ (fun _ made single => step_holders single made) run
  have nobody : (State.initial c signal origin).holders = 0 := by
    simp [State.holders, State.initial, List.countP_replicate, Worker.hasLock]
  exact nobody ▸ Nat.zero_le 1

/-! ### The last look into the queue -/

def Move.isTake : Move → Bool
  | .take _ => true
  | _ => false

theorem ready_of_take (made : Step c s (.take i) t) : s.workers[i]? = some .ready := by
  cases made with
  | taken ready _ | left ready _ | waited ready _ _ => exact ready

/-- Behind a stop, every look into the queue leaves one less that is about to look. -/
theorem step_readied (stopped : s.signal.stop = true) (made : Step c s move t) :
    move.isTake.toNat + t.readied ≤ s.readied := by
  have fewer {i : Nat} {after : Worker} (present : s.workers[i]? = some .ready)
      (other : after.isReady = false) :
      1 + (s.workers.set i after).countP Worker.isReady ≤ s.readied := by
    have counted := countP_set_add Worker.isReady after present
    rw [other] at counted
    exact Nat.le_of_eq ((Nat.add_comm _ _).trans counted)
  have still {i : Nat} {before after : Worker} (present : s.workers[i]? = some before)
      (other : after.isReady = false) :
      0 + (s.workers.set i after).countP Worker.isReady ≤ s.readied :=
    Nat.zero_add _ ▸ countP_set_le _ present (by simp [other])
  cases made with
  | checked _ running =>
    rw [stopped] at running
    cases running
  | taken ready _ | left ready _ | waited ready _ _ => exact fewer ready rfl
  | locked present _ | halted present _ | indexed present | retried present _ | spent present _
  | recorded present | cutIndexing _ present | cutRecording _ present | cutIdle _ present
  | cutWaiting _ present => exact still present rfl
  | _ => exact Nat.le_of_eq (Nat.zero_add _)

/-- Behind a stop, only a worker that was about to look into the queue is. -/
theorem step_ready (stopped : s.signal.stop = true) (made : Step c s move t)
    (ready : t.workers[i]? = some .ready) : s.workers[i]? = some .ready := by
  have other {j : Nat} {after : Worker} (ready : (s.workers.set j after)[i]? = some .ready)
      (changed : after.isReady = false) : s.workers[i]? = some .ready := by
    rw [List.getElem?_set] at ready
    split at ready
    · split at ready
      · cases ready
        cases changed
      · cases ready
    · exact ready
  cases made with
  | checked _ running =>
    rw [stopped] at running
    cases running
  | locked _ _ | halted _ _ | taken _ _ | left _ _ | waited _ _ _ | indexed _ | retried _ _
  | spent _ _ | recorded _ | cutIndexing _ _ | cutRecording _ _ | cutIdle _ _ | cutWaiting _ _ =>
    exact other ready rfl
  | _ => exact ready

end TaxLedger.Pipeline
