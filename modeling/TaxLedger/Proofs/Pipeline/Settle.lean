import TaxLedger.Proofs.Pipeline.Plan
import TaxLedger.Proofs.Pipeline.Rest

/-!
How much is left to do behind a stop. Every own move brings the dispatcher and the workers nearer to
their end (`step_settles`). A try that fails does so too where the tries are limited; where they are
not, such tries are counted apart (`Course.uncounted`).
-/

namespace TaxLedger.Pipeline

variable {c : Course} {s t : State} {move : Move} {moves : List Move} {b : Backoff}

/-! ### Tries -/

def triesLeft (b : Backoff) (tries : Nat) : Nat := (b.maxAttempts - tries).toNat

theorem triesLeft_le (b : Backoff) (tries : Nat) : triesLeft b tries ≤ triesLeft b 0 := by
  simp only [triesLeft]
  omega

def Move.isFailedPoll : Move → Bool
  | .learn (.error _) => true
  | _ => false

def Move.isFailedTry : Move → Bool
  | .learn (.error _) | .attempt _ (.error _) => true
  | _ => false

/-- How many of the moves fulfil `p`, for tries without a limit. -/
def Course.uncounted (c : Course) (p : Move → Bool) (moves : List Move) : Nat :=
  if c.budget.maxAttempts < 0 then moves.countP p else 0

theorem uncounted_snoc (p : Move → Bool) :
    c.uncounted p (moves ++ [move]) = c.uncounted p moves + c.uncounted p [move] := by
  simp only [Course.uncounted]
  split
  · exact List.countP_append
  · rfl

/-- Another try leaves fewer, or it is one that nobody counts. -/
theorem triesLeft_succ {tries : Nat} (move : Move) (p : Move → Bool) (allowed : c.budget.allows tries = true)
    (failed : p move = true) :
    triesLeft c.budget (tries + 1) + 1 ≤ triesLeft c.budget tries + c.uncounted p [move] := by
  simp only [Backoff.allows, Bool.or_eq_true, decide_eq_true_eq] at allowed
  simp only [triesLeft, Course.uncounted, List.countP_singleton, failed, ↓reduceIte]
  split <;> omega

/-! ### What is left -/

/-- An upper bound of the dispatcher's moves behind a stop, from a plan on. -/
def Plan.remaining (b : Backoff) : Plan → Nat
  | .listed _ => 1
  | .stretch _ _ _ => 2
  | .chain _ => triesLeft b 0 + 4

def Phase.remaining (b : Backoff) : Phase → Nat
  | .planning rest => rest.remaining b
  | .polling _ tries => triesLeft b tries + 3
  | .settling _ => 1
  | .pausing rest | .offering _ rest => rest.remaining b + 1
  | .checking _ rest => rest.remaining b + 2
  | .ended _ => 0

def Worker.remaining (b : Backoff) : Worker → Nat
  | .gone => 0
  | .waiting => 1
  | .idle => 2
  | .recording _ _ => 3
  | .indexing _ tries => triesLeft b tries + 4
  | .ready => triesLeft b 0 + 5

def Closing.remaining : Closing → Nat
  | .notYet => 1
  | _ => 0

def State.remaining (b : Backoff) (s : State) : Nat :=
  s.phase.remaining b + s.closing.remaining + (s.workers.map (Worker.remaining b)).sum

def Phase.offers : Phase → Nat
  | .checking _ _ | .offering _ _ => 1
  | _ => 0

theorem offers_le (phase : Phase) : phase.offers ≤ 1 := by cases phase <;> simp [Phase.offers]

theorem remaining_pos (b : Backoff) (plan : Plan) : 0 < plan.remaining b := by
  cases plan <;> simp [Plan.remaining]

theorem remaining_le_of_phase (b : Backoff) (phase : Phase) :
    phase.remaining b ≤ triesLeft b 0 + 6 := by
  have few (plan : Plan) : plan.remaining b ≤ triesLeft b 0 + 4 := by
    cases plan <;> simp [Plan.remaining]
  cases phase with
  | planning rest | pausing rest | offering height rest | checking height rest =>
    have bound := few rest
    simp only [Phase.remaining]
    omega
  | polling next tries =>
    have bound := triesLeft_le b tries
    simp only [Phase.remaining]
    omega
  | settling rest | ended result => simp [Phase.remaining]

theorem remaining_le_of_worker (b : Backoff) (worker : Worker) :
    worker.remaining b ≤ triesLeft b 0 + 5 := by
  cases worker with
  | indexing height tries =>
    have bound := triesLeft_le b tries
    simp only [Worker.remaining]
    omega
  | _ => simp [Worker.remaining]

theorem sum_remaining_le (b : Backoff) (workers : List Worker) :
    (workers.map (Worker.remaining b)).sum ≤ (triesLeft b 0 + 5) * workers.length := by
  induction workers with
  | nil => exact Nat.le_refl _
  | cons worker rest ih =>
    have few := remaining_le_of_worker b worker
    simp only [List.map_cons, List.sum_cons, List.length_cons, Nat.mul_add, Nat.mul_one]
    omega

theorem remaining_le (b : Backoff) (s : State) :
    s.remaining b ≤ (triesLeft b 0 + 7) * (s.workers.length + 1) := by
  have phase := remaining_le_of_phase b s.phase
  have closing : s.closing.remaining ≤ 1 := by cases s.closing <;> simp [Closing.remaining]
  have workers := sum_remaining_le b s.workers
  have wider : (triesLeft b 0 + 5) * s.workers.length ≤ (triesLeft b 0 + 7) * s.workers.length :=
    Nat.mul_le_mul_right _ (by omega)
  rw [Nat.mul_add, Nat.mul_one, State.remaining]
  omega

/-! ### The dispatcher behind a stop -/

theorem next_of_stop (c : Course) (plan : Plan) :
    (plan.next c true).remaining c.budget < plan.remaining c.budget ∧
      (plan.next c true).offers = 0 := by
  cases plan with
  | listed heights => cases heights <;> simp [Plan.next, Plan.remaining, Phase.remaining, Phase.offers]
  | chain first => simp [Plan.next, Plan.remaining, Phase.remaining, Phase.offers]
  | stretch first target tip =>
    rw [Plan.next]
    split
    · simp [Plan.remaining, Phase.remaining, Phase.offers]
    · split <;> simp [Plan.remaining, Phase.remaining, Phase.offers]

theorem step_steering (made : Step c s move t) (steering : move.isSteering = true) :
    t.closing = s.closing ∧ t.workers = s.workers := by
  cases made with
  | planned _ | learned _ | repolled _ _ | refused _ _ | passed _ | cleared _ | unknown _
  | handed _ _ | withdrawn _ _ | paused _ | woken _ _ => exact ⟨rfl, rfl⟩
  | _ => cases steering

theorem step_phase (made : Step c s move t) (other : move.isSteering = false) :
    t.phase = s.phase := by
  cases made with
  | planned _ | learned _ | repolled _ _ | refused _ _ | passed _ | cleared _ | unknown _
  | handed _ _ | withdrawn _ _ | paused _ | woken _ _ => cases other
  | _ => rfl

theorem step_remaining (stopped : s.signal.stop = true) (made : Step c s move t)
    (steering : move.isSteering = true) :
    t.phase.remaining c.budget + 1 ≤
      s.phase.remaining c.budget + c.uncounted Move.isFailedPoll [move] := by
  cases made with
  | @planned plan planning =>
    have fewer := (next_of_stop c plan).1
    rw [stopped, planning]
    exact Nat.le_add_right_of_le fewer
  | @repolled next tries failure polling allowed =>
    have fewer := triesLeft_succ (.learn (.error failure)) Move.isFailedPoll allowed rfl
    rw [polling]
    simp only [Phase.remaining]
    omega
  | learned phase | refused phase _ | cleared phase | unknown phase | withdrawn phase _ =>
    rw [phase]
    simp only [Phase.remaining, Plan.remaining]
    omega
  | passed phase =>
    rw [phase]
    simp only [Phase.remaining]
    omega
  | @handed height rest offering _ =>
    rw [offering]
    have least := remaining_pos c.budget rest
    cases c.isThrottled <;> simp only [Phase.remaining, Bool.false_eq_true, ↓reduceIte] <;> omega
  | paused settling =>
    rw [settling, stopped]
    simp only [Phase.remaining, ↓reduceIte]
    omega
  | woken pausing _ =>
    rw [pausing]
    dsimp only
    split <;> simp only [Phase.remaining] <;> omega
  | _ => cases steering

theorem step_steers (stopped : s.signal.stop = true) (made : Step c s move t) :
    move.isSteering.toNat + t.phase.remaining c.budget ≤
      s.phase.remaining c.budget + c.uncounted Move.isFailedPoll [move] := by
  cases steering : move.isSteering with
  | true =>
    have fewer := step_remaining stopped made steering
    simp only [Bool.toNat_true]
    omega
  | false =>
    rw [step_phase made steering]
    simp only [Bool.toNat_false]
    omega

theorem step_offers (stopped : s.signal.stop = true) (made : Step c s move t) :
    (hands s move).length + t.phase.offers ≤ s.phase.offers := by
  cases made with
  | planned planning =>
    rw [stopped]
    simp [hands, (next_of_stop c _).2]
  | learned phase | repolled phase _ | refused phase _ | passed phase | cleared phase
  | unknown phase | withdrawn phase _ =>
    rw [phase]
    simp [hands, Phase.offers]
  | handed offering _ =>
    cases c.isThrottled <;> simp [hands, offering, Phase.offers]
  | paused settling =>
    rw [stopped]
    simp [hands, Phase.offers]
  | woken pausing _ =>
    simp only [hands, List.length_nil]
    split <;> simp [Phase.offers]
  | _ => exact (Nat.zero_add _).le

/-! ### The pipeline behind a stop -/

theorem remaining_set {workers : List Worker} {i : Nat} {before : Worker} (after : Worker)
    (present : workers[i]? = some before) :
    ((workers.set i after).map (Worker.remaining b)).sum + before.remaining b =
      (workers.map (Worker.remaining b)).sum + after.remaining b := by
  induction workers generalizing i with
  | nil => cases present
  | cons first rest ih =>
    cases i with
    | zero =>
      cases present
      simp only [List.set_cons_zero, List.map_cons, List.sum_cons]
      omega
    | succ i =>
      have later := ih (i := i) present
      simp only [List.set_cons_succ, List.map_cons, List.sum_cons]
      omega

theorem failedPoll_le (c : Course) (move : Move) :
    c.uncounted Move.isFailedPoll [move] ≤ c.uncounted Move.isFailedTry [move] := by
  simp only [Course.uncounted]
  split
  · refine List.countP_mono_left fun move _ poll => ?_
    cases move with
    | learn tip => cases tip <;> first | rfl | cases poll
    | _ => cases poll
  · exact Nat.le_refl _

/-- Every own move brings the pipeline nearer to its rest, but for tries that nobody counts. -/
theorem step_settles (stopped : s.signal.stop = true) (made : Step c s move t) :
    move.isOwn.toNat + t.remaining c.budget ≤
      s.remaining c.budget + c.uncounted Move.isFailedTry [move] := by
  -- A worker's move counts as what it makes of that worker.
  have one {i : Nat} {before after : Worker} (present : s.workers[i]? = some before)
      (lower : after.remaining c.budget + 1 ≤
        before.remaining c.budget + c.uncounted Move.isFailedTry [move]) :
      1 + (s.withWorker i after).remaining c.budget ≤
        s.remaining c.budget + c.uncounted Move.isFailedTry [move] := by
    have moved := remaining_set (b := c.budget) after present
    simp only [State.remaining, State.withWorker]
    omega
  cases steering : move.isSteering with
  | true =>
    have fewer := step_remaining stopped made steering
    have polls := failedPoll_le c move
    obtain ⟨closing, workers⟩ := step_steering made steering
    simp only [State.remaining, closing, workers, isOwn_of_isSteering steering, Bool.toNat_true]
    omega
  | false =>
    cases made with
    | planned _ | learned _ | repolled _ _ | refused _ _ | passed _ | cleared _ | unknown _
    | handed _ _ | withdrawn _ _ | paused _ | woken _ _ => cases steering
    | sent _ | lost => simp [Move.isOwn, State.remaining]
    | expired limited => simp [Move.isOwn, State.remaining, limited, Closing.remaining]
    | closed _ notYet =>
      simp only [Move.isOwn, State.remaining, notYet, stopped, Closing.remaining, ↓reduceIte,
        Bool.toNat_true]
      omega
    | checked _ running =>
      rw [stopped] at running
      cases running
    | @retried i tries height failure present allowed =>
      have fewer := triesLeft_succ (.attempt i (.error failure)) Move.isFailedTry allowed rfl
      refine one present ?_
      simp only [Worker.remaining]
      omega
    | locked present _ | halted present _ | taken present _ | left present _ | waited present _ _
    | indexed present | spent present _ | recorded present | cutIndexing _ present
    | cutRecording _ present | cutIdle _ present | cutWaiting _ present =>
      refine one present ?_
      simp only [Worker.remaining]
      omega

end TaxLedger.Pipeline
