import TaxLedger.Proofs.Pipeline.Chain

/-!
The loss of the one who could ask for a stop. Without a stop, nothing ends the dispatcher before its
plan is through but the loss of the sender, and that only in a pause (`ended_early_only_by_loss`); such a
loss does leave heights behind (`list_cut_short`).
-/

namespace TaxLedger.Pipeline

variable {c : Course} {s t : State} {move : Move} {moves : List Move} {origin : Plan}
  {heights : List Int}

theorem step_ended {result : Except Failure Unit} (ended : s.phase = .ended result)
    (made : Step c s move t) : t.phase = .ended result := by
  cases made with
  | planned other | learned other | repolled other | refused other | passed other | cleared other | unknown other
  | handed other | withdrawn other | paused other | woken other =>
    rw [ended] at other
    cases other
  | _ => exact ended

theorem ended_of_wake (run : follow c (.initial c {} origin) moves = some s)
    (broken : .wake .lost ∈ moves) : s.phase = .ended (.ok ()) := by
  refine run_invariant (fun moves s => .wake .lost ∈ moves → s.phase = .ended (.ok ())) nofun ?_
    run broken
  intro before move reached next run made earlier member
  rcases List.mem_append.mp member with old | new
  · exact step_ended (earlier old) made
  · obtain rfl := List.mem_singleton.mp new
    cases made with
    | woken _ _ => rfl

def Phase.isResting : Phase → Bool
  | .settling _ | .pausing _ => true
  | _ => false

/-- Between the heights of a list there are pauses only where they are asked for. -/
theorem step_restless (quick : c.isThrottled = false)
    (dealt : Dealt c (.listed heights) moves (seen c deals (.initial c {} (.listed heights)) moves) s)
    (busy : s.phase.isResting = false) (made : Step c s move t) : t.phase.isResting = false := by
  cases made with
  | @planned plan planning =>
    have follows := dealt.follows
    rw [planning] at follows
    obtain ⟨upcoming, rfl, _⟩ := reached_listed follows
    dsimp only
    rcases turn_of_next c (.listed upcoming) s.signal.stop with turn | ⟨_, ends⟩
    · generalize (Plan.listed upcoming).next c s.signal.stop = phase at turn
      cases turn <;> rfl
    · rw [ends]
      rfl
  | handed _ _ =>
    rw [quick]
    rfl
  | paused resting | woken resting _ =>
    rw [resting] at busy
    cases busy
  | learned _ | repolled _ _ | refused _ _ | passed _ | cleared _ | unknown _ | withdrawn _ _ => rfl
  | _ => exact busy

theorem throttled_of_wake (run : follow c (.initial c {} (.listed heights)) moves = some s)
    {waking : Waking} (woken : .wake waking ∈ moves) : c.isThrottled = true := by
  by_contra quick
  rw [Bool.not_eq_true] at quick
  refine (run_invariant (fun moves s => s.phase.isResting = false ∧ .wake waking ∉ moves)
    ⟨rfl, List.not_mem_nil⟩ ?_ run).2 woken
  rintro before move reached next run made ⟨busy, unwoken⟩
  refine ⟨step_restless quick (run_dealt run) busy made, fun member => ?_⟩
  rcases List.mem_append.mp member with old | new
  · exact unwoken old
  · obtain rfl := List.mem_singleton.mp new
    cases made with
    | woken pausing _ =>
      rw [pausing] at busy
      cases busy

/-- Without a stop, only the loss of the sender in a pause ends the dispatcher early. A pause that the
loss ends is always the end of the dispatcher, and with a list it is one that slows the heights down.
Where no pause ends like this, a dispatcher that ends without an error is done with all heights of its
list, or with its chain. -/
theorem ended_early_only_by_loss (unasked : .send true ∉ moves)
    (run : follow c (.initial c {} origin) moves = some s) :
    (.wake .lost ∈ moves → s.phase = .ended (.ok ()) ∧ .lose ∈ moves ∧
      ∀ heights, origin = .listed heights → c.isThrottled = true) ∧
    (.wake .lost ∉ moves → s.phase = .ended (.ok ()) →
      (∀ heights, origin = .listed heights →
        seen c deals (.initial c {} origin) moves = heights) ∧
      ∀ start, origin = .chain start →
        ChainDone c start (reports moves) (seen c deals (.initial c {} origin) moves)) := by
  constructor
  · intro broken
    refine ⟨ended_of_wake run broken, lose_mem_of_wake run broken, ?_⟩
    rintro heights rfl
    exact throttled_of_wake run broken
  · intro whole ended
    have free : ¬Interrupted moves := not_or.mpr ⟨unasked, whole⟩
    obtain ⟨plan, reached, turn⟩ := run_through run ended free
    constructor
    · rintro heights rfl
      obtain ⟨upcoming, rfl, parts⟩ := reached_listed reached
      cases turn with
      | emptied => exact (parts.trans (List.append_nil _)).symm
    · rintro start rfl
      exact chainDone_of_turn reached turn

/-- The sender is lost early, but no pause ends by it: 3 has failed before, and 4 is handed over. -/
theorem ended_early_only_by_loss_of_undisturbed :
    let c : Course := ⟨2, 1, ⟨1, 2⟩, -1, true, true⟩
    let moves : List Move :=
      [.plan, .learn (.ok 4), .plan, .look (.ok true), .lose, .plan, .look (.ok false), .hand,
        .pause, .wake .elapsed, .plan]
    ∃ s, follow c (.initial c {} (.chain 3)) moves = some s ∧
      ∀ height, 3 ≤ height → height ≤ 4 → height ∈ seen c deals (.initial c {} (.chain 3)) moves := by
  intro c moves
  have reached : (follow c (.initial c {} (.chain 3)) moves).map State.phase =
      some (.ended (.ok ())) := by cbv
  obtain ⟨s, run, ended⟩ := Option.map_eq_some_iff.mp reached
  have made := ended_early_only_by_loss (by simp [moves]) run
  refine ⟨s, run, ?_⟩
  rcases (made.2 (by simp [moves]) ended).2 3 rfl with ⟨bounded, _⟩ | ⟨_, tip, last, whole⟩
  · exact absurd bounded (by decide)
  · obtain rfl : 4 = tip := Option.some.inj last
    exact whole

/-- With nobody asking for a stop, the dispatcher of a list ends behind its first height, and that of a
chain without an end ends at all: a pause in which the sender is lost ends everything. -/
theorem list_cut_short :
    (∃ (c : Course) (moves : List Move) (s : State), .send true ∉ moves ∧
      follow c (.initial c {} (.listed [5, 7])) moves = some s ∧ s.phase = .ended (.ok ()) ∧
      s.handed = [5]) ∧
    (∃ (c : Course) (moves : List Move) (s : State), .send true ∉ moves ∧ c.lastHeight < 0 ∧
      c.exitWhenCaughtUp = false ∧ follow c (.initial c {} (.chain 5)) moves = some s ∧
      s.phase = .ended (.ok ())) ∧
    Signal.pauseEndsAll {} (Signal.lose {}) = true := by
  refine ⟨?list, ?chain, rfl⟩
  case list =>
    refine ⟨⟨2, 1, ⟨1, 2⟩, -1, false, true⟩,
      [.plan, .look (.ok false), .hand, .pause, .lose, .wake .lost], _, ?_, rfl, rfl, rfl⟩
    simp
  case chain =>
    let c : Course := ⟨2, 1, ⟨1, 2⟩, -1, false, false⟩
    let moves : List Move := [.plan, .learn (.ok 4), .plan, .lose, .pause, .wake .lost]
    have reached : (follow c (.initial c {} (.chain 5)) moves).map State.phase =
        some (.ended (.ok ())) := by cbv
    obtain ⟨s, run, ended⟩ := Option.map_eq_some_iff.mp reached
    exact ⟨c, moves, s, by simp [moves], by decide, rfl, run, ended⟩

end TaxLedger.Pipeline
