import TaxLedger.Proofs.Pipeline.Account
import TaxLedger.Proofs.Pipeline.Calm
import TaxLedger.Proofs.Pipeline.Rest

/-!
No height is lost and none is indexed twice. As long as nobody asks for a stop, the pipeline only comes
to rest when every height that was handed over is finished (`heights_conserved`).
-/

namespace TaxLedger.Pipeline

variable {c : Course} {s t : State} {move : Move} {moves : List Move}

/-! ### A calm pipeline at rest -/

/-- A pipeline at rest has no height in its queue. -/
theorem queue_at_rest (crew : 1 ≤ s.workers.length) (calm : Calm s) (rest : AtRest c s) :
    s.queue.items = [] := by
  have member : s.workers[0] ∈ s.workers := List.getElem_mem crew
  have exhausted := calm.leaving (rest.gone _ member ▸ member)
  exact (HeightQueue.isExhausted_iff.mp exhausted).1

/-- Successes and recorded failures of a height add up to how often it is finished. -/
theorem count_done (calm : Calm s) (height : Int) :
    s.finished.count (height, .indexed) + s.finished.count (height, .failed) =
      s.done.count height := by
  have proper := calm.ending
  unfold State.done
  generalize s.finished = finished at proper
  induction finished with
  | nil => rfl
  | cons entry rest ih =>
    have counted := ih fun e member => proper e (List.mem_cons_of_mem _ member)
    obtain ⟨other, ending⟩ := entry
    simp only [List.map_cons, List.count_cons, ← counted]
    by_cases same : other = height <;>
      rcases proper _ List.mem_cons_self with rfl | rfl <;> simp [same] <;> omega

/-- No height is lost and none is indexed twice. While nobody asks for a stop, the heights handed over
are finished, held by workers or queued, in the order in which they came. A pipeline at rest has
finished each of them as often as it was handed over, by a success or a recorded failure, also behind
a dispatcher that failed; and a list was handed over in full, but for what was passed over. -/
theorem heights_conserved {plan : Plan} (room : 1 ≤ c.capacity) (crew : 1 ≤ c.workers)
    (quiet : ∀ move ∈ moves, move.isCalm = true)
    (run : follow c (.initial c {} plan) moves = some s) :
    ((s.handed : Multiset Int) = s.done + s.held + s.queue.items ∧
      s.handed = seen c takes (.initial c {} plan) moves ++ s.queue.items ∧
      s.queue.items.length ≤ c.capacity ∧ s.held.length ≤ c.workers) ∧
    (AtRest c s →
      (∃ result, s.phase = .ended result) ∧
      (∀ entry ∈ s.finished, entry.2 = .indexed ∨ entry.2 = .failed) ∧
      (∀ height, s.finished.count (height, .indexed) + s.finished.count (height, .failed) =
        s.handed.count height) ∧
      ∀ heights, plan = .listed heights → .lose ∉ moves → s.phase = .ended (.ok ()) →
        ∀ height, s.finished.count (height, .indexed) + s.finished.count (height, .failed) +
          (seen c passes (.initial c {} plan) moves).count height = heights.count height) := by
  have calm := run_calm quiet run
  obtain ⟨fifo, borne, bound, fits, size⟩ := run_accounted run
  have total : (s.handed : Multiset Int) = s.done + s.held + s.queue.items := by
    rw [fifo, ← Multiset.coe_add, borne]
  refine ⟨⟨total, fifo, fits, size ▸ held_length_le s⟩, fun rest => ?_⟩
  have empty := queue_at_rest (by omega) calm rest
  have vacant : s.queue.hasRoom = true := by
    simp only [HeightQueue.hasRoom, calm.served, empty, bound, List.length_nil, Bool.true_and,
      decide_eq_true_eq]
    omega
  obtain ⟨ended, _⟩ := rest.dispatcher (.inl vacant)
  have finished : s.handed.Perm s.done := by
    rw [empty, rest.held] at total
    exact Multiset.coe_eq_coe.mp (by simpa using total)
  refine ⟨ended, calm.ending, fun height => ?_, ?_⟩
  · rw [count_done calm, finished.count_eq]
  · rintro heights rfl keeping complete height
    obtain ⟨upcoming, owed, listed⟩ := run_covered quiet keeping run
    rw [complete] at owed
    obtain rfl : upcoming = [] := owed rfl
    have counted := congrArg (Multiset.count height) listed
    simp only [Multiset.count_add, Multiset.coe_count, List.count_nil, Nat.add_zero] at counted
    rw [count_done calm, counted, finished.count_eq]

/-- Two workers and a queue for one height: the first try of 7 fails, and so does the second. -/
theorem heights_conserved_of_repeated :
    let c : Course := ⟨1, 2, ⟨1, 2⟩, -1, true, false⟩
    let failure := Failure.ofText "no answer"
    let moves : List Move :=
      [.plan, .look (.ok false), .lock 1, .hand, .check 1, .take 1, .plan, .look (.ok false), .lock 0,
        .check 0, .take 0, .hand, .send false, .check 0, .take 0, .attempt 0 (.error failure), .plan,
        .look (.ok false), .hand, .attempt 1 (.ok ()), .lock 1, .attempt 0 (.error failure), .check 1,
        .take 1, .plan, .look (.ok true), .plan, .record 0, .lock 0, .check 0, .close, .take 0,
        .attempt 1 (.ok ()), .lock 1, .check 1, .take 1]
    ∃ s, follow c (.initial c {} (.listed [5, 7, 5, 9])) moves = some s ∧ AtRest c s ∧
      s.finished.count (5, .indexed) + s.finished.count (5, .failed) = 2 ∧
      s.finished.count (7, .indexed) + s.finished.count (7, .failed) = 1 := by
  intro c failure moves
  let s : State :=
    { signal := { wasSent := true }, phase := .ended (.ok ()),
      queue := { capacity := 1, isFed := false }, workers := [.gone, .gone], closing := .patient,
      handed := [5, 7, 5], finished := [(5, .indexed), (7, .failed), (5, .indexed)] }
  let midway : State :=
    { signal := { wasSent := true }, phase := .planning (.listed [9]),
      queue := { capacity := 1, items := [5] }, workers := [.indexing 7 1, .idle], handed := [5, 7, 5],
      finished := [(5, .indexed)] }
  have half : follow c (.initial c {} (.listed [5, 7, 5, 9])) (moves.take 20) = some midway := rfl
  have run : follow c (.initial c {} (.listed [5, 7, 5, 9])) moves = some s := by
    rw [← List.take_append_drop 20 moves, follow_append, half]
    rfl
  have rest : AtRest c s := by
    intro move own
    cases move with
    | send | lose | expire => cases own
    | lock i | check i | take i | record i | abort i =>
      rcases i with _ | _ | i <;> rfl
    | attempt i result =>
      rcases i with _ | _ | i <;> rfl
    | _ => rfl
  have made := heights_conserved (by decide) (by decide) (by decide) run
  have passed : seen c passes (.initial c {} (.listed [5, 7, 5, 9])) moves = [9] := by
    decide +kernel
  have whole := (made.2 rest).2.2.2 _ rfl (by simp [moves]) rfl
  rw [passed] at whole
  exact ⟨s, run, rest, whole 5, whole 7⟩

end TaxLedger.Pipeline
