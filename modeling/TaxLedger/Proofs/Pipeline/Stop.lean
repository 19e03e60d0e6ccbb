import TaxLedger.Proofs.Pipeline.Lock
import TaxLedger.Proofs.Pipeline.Settle

/-!
What comes behind a stop (`stop_winds_down`). One more height at most is taken out of the queue, by the
worker that had looked at the signal right before, and one more at most is handed over. Each height that
a worker holds ends once, and tries without a limit apart, all moves come to an end.
-/

namespace TaxLedger.Pipeline

variable {c : Course} {s t : State} {move : Move} {moves : List Move} {origin : Plan}
  {taken : List Int}

/-! ### A run behind a stop -/

theorem step_stopped (stopped : s.signal.stop = true) (kept : move ≠ .send false)
    (made : Step c s move t) : t.signal.stop = true := by
  cases made with
  | @sent stop _ =>
    cases stop with
    | true => rfl
    | false => exact absurd rfl kept
  | _ => exact stopped

/-- Who closes the pipeline down behind a stop leaves the workers a time of grace only. -/
theorem step_patient (stopped : s.signal.stop = true) (made : Step c s move t)
    (patient : t.closing = .patient) : s.closing = .patient := by
  cases made with
  | closed _ _ =>
    rw [stopped] at patient
    cases patient
  | expired _ => cases patient
  | _ => exact patient

theorem step_finished (made : Step c s move t) : ∃ ends, t.finished = s.finished ++ ends := by
  cases made with
  | indexed _ | recorded _ | cutIndexing _ _ | cutRecording _ _ => exact ⟨[_], rfl⟩
  | _ => exact ⟨[], (List.append_nil _).symm⟩

theorem takes_length_le (s : State) (move : Move) :
    (takes s move).length ≤ move.isTake.toNat := by
  cases move with
  | take i => exact List.length_take_le 1 _
  | _ => exact Nat.le_refl _

/-- What a run from `s` to `t` behind a stop has done. -/
structure Stopping (c : Course) (taken : List Int) (s : State) (moves : List Move) (t : State) :
    Prop where
  stopped : t.signal.stop = true
  patient : t.closing = .patient → s.closing = .patient
  ready : ∀ i : Nat, t.workers[i]? = some .ready → s.workers[i]? = some .ready
  takers : ∀ i, .take i ∈ moves → s.workers[i]? = some .ready
  looked : moves.countP Move.isTake + t.readied ≤ s.readied
  late : (seen c takes s moves).length ≤ moves.countP Move.isTake
  offered : (seen c hands s moves).length + t.phase.offers ≤ s.phase.offers
  steered : moves.countP Move.isSteering + t.phase.remaining c.budget ≤
    s.phase.remaining c.budget + c.uncounted Move.isFailedPoll moves
  settled : moves.countP Move.isOwn + t.remaining c.budget ≤
    s.remaining c.budget + c.uncounted Move.isFailedTry moves
  account : Accounted c (taken ++ seen c takes s moves) t
  finished : ∃ ends, t.finished = s.finished ++ ends

theorem initial_stopping (stopped : s.signal.stop = true) (account : Accounted c taken s) :
    Stopping c taken s [] s where
  stopped := stopped
  patient := id
  ready _ := id
  takers _ member := absurd member List.not_mem_nil
  looked := (Nat.zero_add _).le
  late := Nat.le_refl _
  offered := (Nat.zero_add _).le
  steered := by simp
  settled := by simp
  account := by simpa [seen] using account
  finished := ⟨[], (List.append_nil _).symm⟩

theorem step_stopping {u : State} (run : follow c s moves = some t)
    (stopping : Stopping c taken s moves t) (kept : move ≠ .send false) (made : Step c t move u) :
    Stopping c taken s (moves ++ [move]) u := by
  obtain ⟨stopped, patient, ready, takers, looked, late, offered, steered, settled, account, ends,
    finished⟩ := stopping
  have count (p : Move → Bool) : (moves ++ [move]).countP p = moves.countP p + (p move).toNat := by
    rw [List.countP_append, List.countP_singleton]
    cases p move <;> rfl
  refine ⟨step_stopped stopped kept made, fun now => patient (step_patient stopped made now),
    fun i now => ready i (step_ready stopped made now), ?_, ?_, ?_, ?_, ?_, ?_, ?_, ?_⟩
  · intro i member
    rcases List.mem_append.mp member with old | new
    · exact takers i old
    · obtain rfl := List.mem_singleton.mp new
      exact ready i (ready_of_take made)
  · have fewer := step_readied stopped made
    rw [count]
    omega
  · have few := takes_length_le t move
    rw [seen_snoc run, List.length_append, count]
    omega
  · have fewer := step_offers stopped made
    rw [seen_snoc run, List.length_append]
    omega
  · have fewer := step_steers stopped made
    rw [count, uncounted_snoc]
    omega
  · have fewer := step_settles stopped made
    rw [count, uncounted_snoc]
    omega
  · rw [seen_snoc run, ← List.append_assoc]
    exact step_accounted account made
  · obtain ⟨more, longer⟩ := step_finished made
    exact ⟨ends ++ more, by rw [longer, finished, List.append_assoc]⟩

theorem run_stopping (stopped : s.signal.stop = true) (account : Accounted c taken s)
    (kept : .send false ∉ moves) (run : follow c s moves = some t) : Stopping c taken s moves t :=
  run_keeps (· ≠ .send false) (fun moves t => Stopping c taken s moves t)
    (initial_stopping stopped account)
    (fun run kept made stopping => step_stopping run stopping kept made)
    (fun _ member same => kept (same ▸ member)) run

/-- What is taken out of the queue is what was in front, and what is handed over comes behind. -/
theorem Stopping.items (stopping : Stopping c taken s moves t) (account : Accounted c taken s)
    (run : follow c s moves = some t) :
    s.queue.items ++ seen c hands s moves = seen c takes s moves ++ t.queue.items := by
  have fifo := stopping.account.fifo
  rw [run_handed run, account.fifo, List.append_assoc, List.append_assoc] at fifo
  exact List.append_cancel_left fifo

theorem Stopping.held {ends : List (Int × Ending)} (stopping : Stopping c taken s moves t)
    (account : Accounted c taken s) (longer : t.finished = s.finished ++ ends) :
    (s.held : Multiset Int) + (seen c takes s moves : List Int) =
      (ends.map Prod.fst : List Int) + t.held := by
  have done : t.done = s.done ++ ends.map Prod.fst := by
    rw [State.done, longer, List.map_append, State.done]
  have borne := stopping.account.borne
  rw [← Multiset.coe_add, account.borne, done, ← Multiset.coe_add, add_assoc, add_assoc] at borne
  exact add_left_cancel borne

/-! ### The time of grace -/

/-- Heights are only cut off when the time of grace is over. -/
structure Graced (moves : List Move) (s : State) : Prop where
  late : s.closing = .expired → .expire ∈ moves
  cut : ∀ height, (height, .aborted) ∈ s.finished → .expire ∈ moves

theorem step_graced (graced : Graced moves s) (made : Step c s move t) :
    Graced (moves ++ [move]) t := by
  obtain ⟨late, cut⟩ := graced
  have late' : s.closing = .expired → .expire ∈ moves ++ [move] :=
    fun expired => List.mem_append_left _ (late expired)
  have cut' (height : Int) (member : (height, .aborted) ∈ s.finished) : .expire ∈ moves ++ [move] :=
    List.mem_append_left _ (cut height member)
  have ends {height : Int} {ending : Ending} (proper : ending = .aborted → s.closing = .expired)
      (other : Int) (member : (other, .aborted) ∈ s.finished ++ [(height, ending)]) :
      .expire ∈ moves ++ [move] := by
    rcases List.mem_append.mp member with old | new
    · exact cut' other old
    · exact late' (proper (congrArg Prod.snd (List.mem_singleton.mp new)).symm)
  cases made with
  | expired _ =>
    have now : Move.expire ∈ moves ++ [.expire] := List.mem_append_right _ List.mem_cons_self
    exact ⟨fun _ => now, fun _ _ => now⟩
  | closed _ _ =>
    refine ⟨fun expired => ?_, cut'⟩
    cases stop : s.signal.stop <;> simp [stop] at expired
  | indexed _ | recorded _ => exact ⟨late', ends nofun⟩
  | cutIndexing expired _ | cutRecording expired _ => exact ⟨late', ends fun _ => expired⟩
  | _ => exact ⟨late', cut'⟩

theorem initial_graced (c : Course) (origin : Plan) : Graced [] (.initial c {} origin) where
  late expired := by cases expired
  cut _ member := absurd member List.not_mem_nil

theorem run_graced (run : follow c (.initial c {} origin) moves = some s) : Graced moves s :=
  run_invariant Graced (initial_graced c origin)
    (fun _ made graced => step_graced graced made) run

/-! ### All together -/

/-- A dispatcher that may try without a limit can go on asking how far the chain has come, as often as
there is no answer. -/
theorem polls_on {next : Int} {tries : Nat} (unlimited : c.budget.maxAttempts < 0) (failure : Failure)
    (polling : s.phase = .polling next tries) (n : Nat) :
    ∃ t, follow c s (List.replicate n (.learn (.error failure))) = some t ∧
      t.phase = .polling next (tries + n) ∧ t.closing = s.closing := by
  induction n generalizing s tries with
  | zero => exact ⟨s, rfl, polling, rfl⟩
  | succ n ih =>
    have allowed : c.budget.allows tries = true := by simp [Backoff.allows, unlimited]
    have made : Step c s (.learn (.error failure)) { s with phase := .polling next (tries + 1) } :=
      .repolled polling allowed
    obtain ⟨t, run, phase, closing⟩ := ih (s := { s with phase := .polling next (tries + 1) }) rfl
    refine ⟨t, ?_, ?_, closing⟩
    · rw [List.replicate_succ, follow, step_iff.mpr made]
      exact run
    · rw [phase, Nat.add_assoc, Nat.add_comm 1]

end TaxLedger.Pipeline
