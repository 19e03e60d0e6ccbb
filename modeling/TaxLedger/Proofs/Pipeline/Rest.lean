import TaxLedger.Proofs.Pipeline.Account

/-!
A pipeline at rest: nobody who takes part in it can make a move. The dispatcher comes to rest only where
it has ended, or before a full queue while no stop is asked for (`steering_possible`).
-/

namespace TaxLedger.Pipeline

variable {c : Course} {s t : State} {move : Move}

/-- Whether a move is one of the dispatcher or of a worker; the others come from outside. -/
def Move.isOwn : Move → Bool
  | .send _ | .lose | .expire => false
  | _ => true

def AtRest (c : Course) (s : State) : Prop := ∀ move, move.isOwn = true → step c s move = none

theorem AtRest.stuck (rest : AtRest c s) (own : move.isOwn = true) : ¬ Step c s move t := by
  intro made
  have none := rest move own
  rw [step_iff.mpr made] at none
  cases none

def Move.isSteering : Move → Bool
  | .plan | .learn _ | .look _ | .hand | .withdraw | .pause | .wake _ => true
  | _ => false

theorem isOwn_of_isSteering (steering : move.isSteering = true) : move.isOwn = true := by
  cases move with
  | send | lose | expire => cases steering
  | _ => rfl

/-- A dispatcher that has not ended can go on, if the queue has room or a stop is asked for. -/
theorem steering_possible (free : s.queue.hasRoom = true ∨ s.signal.stop = true)
    (going : ∀ result, s.phase ≠ .ended result) :
    ∃ move t, move.isSteering = true ∧ Step c s move t := by
  cases phase : s.phase with
  | planning plan => exact ⟨.plan, _, rfl, .planned phase⟩
  | polling next tries => exact ⟨.learn (.ok next), _, rfl, .learned phase⟩
  | checking height later => exact ⟨.look (.ok true), _, rfl, .passed phase⟩
  | offering height later =>
    rcases free with room | stop
    · exact ⟨.hand, _, rfl, .handed phase room⟩
    · exact ⟨.withdraw, _, rfl, .withdrawn phase (by simp [stop])⟩
  | settling later => exact ⟨.pause, _, rfl, .paused phase⟩
  | pausing later => exact ⟨.wake .elapsed, _, rfl, .woken phase rfl⟩
  | ended result => exact absurd phase (going result)

/-- A dispatcher at rest has ended, and the queue is closed behind it. -/
theorem AtRest.dispatcher (rest : AtRest c s)
    (free : s.queue.hasRoom = true ∨ s.signal.stop = true) :
    (∃ result, s.phase = .ended result) ∧ s.closing ≠ .notYet := by
  have ended : ∃ result, s.phase = .ended result := by
    by_contra going
    obtain ⟨move, t, steering, made⟩ :=
      steering_possible (c := c) free fun result same => going ⟨result, same⟩
    exact rest.stuck (isOwn_of_isSteering steering) made
  obtain ⟨result, phase⟩ := ended
  exact ⟨⟨result, phase⟩, fun notYet => absurd (.closed phase notYet) (rest.stuck rfl)⟩

/-! ### Workers at rest -/

/-- A worker that holds the lock of the queue can go on. -/
theorem AtRest.unlocked (rest : AtRest c s) : s.isLocked = false := by
  rw [State.isLocked, List.any_eq_false]
  intro worker member holding
  obtain ⟨i, inside, rfl⟩ := List.mem_iff_getElem.mp member
  have present := List.getElem?_eq_getElem inside
  cases at_ : s.workers[i] with
  | waiting =>
    rw [at_] at present
    cases stop : s.signal.stop with
    | true => exact rest.stuck rfl (.halted present stop)
    | false => exact rest.stuck rfl (.checked present stop)
  | ready =>
    rw [at_] at present
    cases front : s.queue.pop? with
    | some taken => exact rest.stuck rfl (.taken present front)
    | none =>
      have empty := HeightQueue.pop?_eq_none_iff.mp front
      cases fed : s.queue.isFed with
      | true => exact rest.stuck rfl (.waited present empty fed)
      | false =>
        exact rest.stuck rfl (.left present (HeightQueue.isExhausted_iff.mpr ⟨empty, fed⟩))
  | _ => simp [at_, Worker.hasLock] at holding

/-- Workers come to rest only where they are gone: the lock of the queue is free for one that is idle. -/
theorem AtRest.gone (rest : AtRest c s) : ∀ worker ∈ s.workers, worker = .gone := by
  intro worker member
  obtain ⟨i, inside, rfl⟩ := List.mem_iff_getElem.mp member
  have present := List.getElem?_eq_getElem inside
  have free := rest.unlocked
  cases at_ : s.workers[i] with
  | gone => rfl
  | idle => exact absurd (.locked (at_ ▸ present) free) (rest.stuck rfl)
  | indexing height tries => exact absurd (.indexed (at_ ▸ present)) (rest.stuck rfl)
  | recording height failure => exact absurd (.recorded (at_ ▸ present)) (rest.stuck rfl)
  | waiting | ready =>
    rw [State.isLocked, List.any_eq_false] at free
    exact absurd rfl (at_ ▸ free s.workers[i] member)

theorem AtRest.held (rest : AtRest c s) : s.held = [] := by
  refine List.filterMap_eq_nil_iff.mpr fun worker member => ?_
  rw [rest.gone worker member]
  rfl

end TaxLedger.Pipeline
