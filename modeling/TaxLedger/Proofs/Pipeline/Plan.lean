import Mathlib.Algebra.Order.Group.Multiset
import Mathlib.Data.Int.Range
import Mathlib.Tactic.Abel
import TaxLedger.Proofs.Pipeline.Run

/-!
What the dispatcher makes of its plan. Behind every run, whatever is asked for and whatever is lost on
the way, the heights it is done with lead from its first plan to the plan that is left (`Dealt`), and it
ends without an error only when nothing is left or when it was interrupted.
-/

namespace TaxLedger.Pipeline

variable {c : Course} {s t : State} {move : Move} {moves : List Move} {origin plan rest : Plan}
  {phase : Phase} {height : Int} {heights tips dealt : List Int}

def hands (s : State) : Move → List Int
  | .hand =>
    match s.phase with
    | .offering height _ => [height]
    | _ => []
  | _ => []

/-- The height that the dispatcher passes over by a move, as it has failed before. -/
def passes (s : State) : Move → List Int
  | .look (.ok true) =>
    match s.phase with
    | .checking height _ => [height]
    | _ => []
  | _ => []

def deals (s : State) (move : Move) : List Int := hands s move ++ passes s move

def Move.report? : Move → Option Int
  | .learn (.ok tip) => some tip
  | _ => none

def reports (moves : List Move) : List Int := moves.filterMap Move.report?

/-- A stop was asked for, or a pause was ended by the loss of the one who could ask. -/
def Interrupted (moves : List Move) : Prop := .send true ∈ moves ∨ .wake .lost ∈ moves

/-! ### One turn to the next height -/

/-- What the dispatcher finds when it turns to its next height and no stop is asked for. -/
inductive Turn (c : Course) : Plan → Phase → Prop
  | emptied : Turn c (.listed []) (.ended (.ok ()))
  | listed {height : Int} {later : List Int} :
      Turn c (.listed (height :: later)) (.checking height (.listed later))
  | asking {next : Int} : Turn c (.chain next) (.polling next 0)
  | ahead {next target tip : Int} (within : next ≤ target) :
      Turn c (.stretch next target tip) (.checking next (.stretch (heightAfter next) target tip))
  | through {next target tip : Int} (beyond : target < next)
      (done : (c.isOver next || c.exitWhenCaughtUp) = true) :
      Turn c (.stretch next target tip) (.ended (.ok ()))
  | behind {next target tip : Int} (beyond : target < next) :
      Turn c (.stretch next target tip) (.settling (.chain next))

theorem turn_of_next (c : Course) (plan : Plan) (stop : Bool) :
    Turn c plan (plan.next c stop) ∨ stop = true ∧ plan.next c stop = .ended (.ok ()) := by
  cases plan with
  | listed heights =>
    cases heights with
    | nil => exact .inl .emptied
    | cons height later =>
      cases stop with
      | true => exact .inr ⟨rfl, rfl⟩
      | false => exact .inl .listed
  | chain first => exact .inl .asking
  | stretch first target tip =>
    rw [Plan.next]
    split
    · rename_i within
      cases stop with
      | true => exact .inr ⟨rfl, rfl⟩
      | false => exact .inl (.ahead within)
    · rename_i beyond
      split
      · rename_i done
        exact .inl (.through (by omega) done)
      · exact .inl (.behind (by omega))

/-! ### Plans in the course of a run -/

/-- The plan is what is left of `origin` when the node has told the tips `tips` and the heights in
`dealt` are done with. -/
inductive Reached (c : Course) (origin : Plan) : (tips dealt : List Int) → Plan → Prop
  | start : Reached c origin [] [] origin
  | learned {tips dealt : List Int} {next tip : Int} (asking : Reached c origin tips dealt (.chain next)) :
      Reached c origin (tips ++ [tip]) dealt (.stretch next (c.target tip) tip)
  | dealt {tips dealt : List Int} {plan rest : Plan} {height : Int}
      (before : Reached c origin tips dealt plan) (turn : Turn c plan (.checking height rest)) :
      Reached c origin tips (dealt ++ [height]) rest
  | settled {tips dealt : List Int} {plan rest : Plan}
      (before : Reached c origin tips dealt plan) (turn : Turn c plan (.settling rest)) :
      Reached c origin tips dealt rest

theorem reached_listed (reached : Reached c (.listed heights) tips dealt plan) :
    ∃ upcoming, plan = .listed upcoming ∧ heights = dealt ++ upcoming := by
  induction reached with
  | start => exact ⟨heights, rfl, rfl⟩
  | learned _ ih =>
    obtain ⟨_, other, _⟩ := ih
    cases other
  | dealt _ turn ih =>
    obtain ⟨upcoming, rfl, whole⟩ := ih
    cases turn with
    | listed => exact ⟨_, rfl, by rw [whole, List.append_assoc, List.singleton_append]⟩
  | settled _ turn ih =>
    obtain ⟨upcoming, rfl, _⟩ := ih
    cases turn

/-- What the dispatcher is at when its plan has come so far. It ends without an error when nothing is
left, unless it was interrupted. -/
def Phase.Follows (c : Course) (origin : Plan) (interrupted : Prop) (tips dealt : List Int) :
    Phase → Prop
  | .planning rest | .settling rest | .pausing rest => Reached c origin tips dealt rest
  | .polling next _ => Reached c origin tips dealt (.chain next)
  | .checking height rest | .offering height rest =>
    ∃ plan, Reached c origin tips dealt plan ∧ Turn c plan (.checking height rest)
  | .ended result =>
    ∃ plan, Reached c origin tips dealt plan ∧
      (result = .ok () → interrupted ∨ Turn c plan (.ended (.ok ())))

theorem Phase.Follows.mono {before after : Prop} (follows : phase.Follows c origin before tips dealt)
    (wider : before → after) : phase.Follows c origin after tips dealt := by
  cases phase with
  | ended result =>
    obtain ⟨plan, reached, finished⟩ := follows
    exact ⟨plan, reached, fun fine => (finished fine).imp_left wider⟩
  | _ => exact follows

theorem follows_of_turn {interrupted : Prop} (reached : Reached c origin tips dealt plan)
    (turn : Turn c plan phase) : phase.Follows c origin interrupted tips dealt := by
  cases turn with
  | emptied => exact ⟨_, reached, fun _ => .inr .emptied⟩
  | listed => exact ⟨_, reached, .listed⟩
  | asking => exact reached
  | ahead within => exact ⟨_, reached, .ahead within⟩
  | through beyond done => exact ⟨_, reached, fun _ => .inr (.through beyond done)⟩
  | behind beyond => exact reached.settled (.behind beyond)

structure Dealt (c : Course) (origin : Plan) (moves : List Move) (dealt : List Int) (s : State) :
    Prop where
  asked : s.signal.stop = true → .send true ∈ moves
  served : s.queue.isServed = true
  follows : s.phase.Follows c origin (Interrupted moves) (reports moves) dealt

theorem initial_dealt (c : Course) (origin : Plan) :
    Dealt c origin [] [] (.initial c {} origin) where
  asked stopped := nomatch stopped
  served := rfl
  follows := .start

theorem Interrupted.snoc (interrupted : Interrupted moves) (move : Move) :
    Interrupted (moves ++ [move]) :=
  interrupted.imp (List.mem_append_left _) (List.mem_append_left _)

theorem reports_snoc : reports (moves ++ [move]) = reports moves ++ move.report?.toList := by
  rw [reports, List.filterMap_append, reports]
  cases told : move.report? <;> simp [told]

theorem step_asked (asked : s.signal.stop = true → .send true ∈ moves) (made : Step c s move t) :
    t.signal.stop = true → .send true ∈ moves ++ [move] := by
  cases made with
  | @sent stop _ =>
    intro on
    obtain rfl : stop = true := on
    exact List.mem_append_right _ List.mem_cons_self
  | _ => exact fun stop => List.mem_append_left _ (asked stop)

theorem step_served (served : s.queue.isServed = true) (made : Step c s move t) :
    t.queue.isServed = true := by
  cases made with
  | taken _ front =>
    obtain ⟨_, _, rfl⟩ := HeightQueue.pop?_eq_some_iff.mp front
    exact served
  | _ => exact served

theorem interrupted_of_wake {waking : Waking} (asked : s.signal.stop = true → .send true ∈ moves)
    (ends : s.signal.endsAll waking = true) : Interrupted (moves ++ [.wake waking]) := by
  cases waking with
  | elapsed => cases ends
  | sent => exact Interrupted.snoc (.inl (asked ends)) _
  | lost => exact .inr (List.mem_append_right _ List.mem_cons_self)

theorem step_follows (before : Dealt c origin moves dealt s) (made : Step c s move t) :
    t.phase.Follows c origin (Interrupted (moves ++ [move])) (reports (moves ++ [move]))
      (dealt ++ deals s move) := by
  obtain ⟨asked, served, follows⟩ := before
  have stopped : s.signal.stop = true → Interrupted (moves ++ [move]) := fun stop =>
    Interrupted.snoc (.inl (asked stop)) move
  -- A move by which the dispatcher is done with no height and hears of no tip.
  have goes (nothing : deals s move = []) (silent : move.report? = none)
      (next : t.phase.Follows c origin (Interrupted (moves ++ [move])) (reports moves) dealt) :
      t.phase.Follows c origin (Interrupted (moves ++ [move])) (reports (moves ++ [move]))
        (dealt ++ deals s move) := by
    rw [nothing, reports_snoc, silent, Option.toList_none, List.append_nil, List.append_nil]
    exact next
  have still (nothing : deals s move = []) (silent : move.report? = none)
      (same : t.phase = s.phase) :
      t.phase.Follows c origin (Interrupted (moves ++ [move])) (reports (moves ++ [move]))
        (dealt ++ deals s move) := by
    refine goes nothing silent ?_
    rw [same]
    exact follows.mono fun interrupted => interrupted.snoc move
  cases made with
  | @planned plan planning =>
    rw [planning] at follows
    refine goes rfl rfl ?_
    rcases turn_of_next c plan s.signal.stop with turn | ⟨stop, ends⟩
    · exact follows_of_turn follows turn
    · dsimp only
      rw [ends]
      exact ⟨_, follows, fun _ => .inl (stopped stop)⟩
  | @learned next tip tries polling =>
    rw [polling] at follows
    rw [reports_snoc, show deals s (.learn (.ok tip)) = [] from rfl, List.append_nil]
    exact Reached.learned follows
  | repolled polling _ =>
    rw [polling] at follows
    exact goes rfl rfl follows
  | refused polling _ =>
    rw [polling] at follows
    exact goes rfl rfl ⟨_, follows, nofun⟩
  | @passed height rest checking =>
    rw [checking] at follows
    obtain ⟨plan, reached, turn⟩ := follows
    have done : deals s (.look (.ok true)) = [height] := by simp [deals, hands, passes, checking]
    rw [reports_snoc, done, show (Move.look (.ok true)).report?.toList = [] from rfl,
      List.append_nil]
    exact reached.dealt turn
  | cleared checking =>
    rw [checking] at follows
    exact goes rfl rfl follows
  | unknown checking =>
    rw [checking] at follows
    obtain ⟨plan, reached, _⟩ := follows
    exact goes rfl rfl ⟨plan, reached, nofun⟩
  | @handed height rest offering _ =>
    rw [offering] at follows
    obtain ⟨plan, reached, turn⟩ := follows
    have done : deals s .hand = [height] := by simp [deals, hands, passes, offering]
    rw [reports_snoc, done, show Move.hand.report?.toList = [] from rfl, List.append_nil]
    have later := reached.dealt turn
    cases c.isThrottled <;> exact later
  | withdrawn offering hopeless =>
    rw [offering] at follows
    obtain ⟨plan, reached, _⟩ := follows
    have stop : s.signal.stop = true := by simpa [served] using hopeless
    exact goes rfl rfl ⟨plan, reached, fun _ => .inl (stopped stop)⟩
  | @paused rest settling =>
    rw [settling] at follows
    refine goes rfl rfl ?_
    cases stop : s.signal.stop with
    | true => exact ⟨rest, follows, fun _ => .inl (stopped stop)⟩
    | false => exact follows
  | @woken rest waking pausing can =>
    rw [pausing] at follows
    refine goes rfl rfl ?_
    cases ends : s.signal.endsAll waking with
    | true => exact ⟨rest, follows, fun _ => .inl (interrupted_of_wake asked ends)⟩
    | false => exact follows
  | _ => exact still rfl rfl rfl

theorem step_dealt (before : Dealt c origin moves dealt s) (made : Step c s move t) :
    Dealt c origin (moves ++ [move]) (dealt ++ deals s move) t where
  asked := step_asked before.asked made
  served := step_served before.served made
  follows := step_follows before made

theorem run_dealt (run : follow c (.initial c {} origin) moves = some s) :
    Dealt c origin moves (seen c deals (.initial c {} origin) moves) s := by
  refine run_invariant
    (fun moves s => Dealt c origin moves (seen c deals (.initial c {} origin) moves) s)
    (initial_dealt c origin) ?_ run
  intro before move reached next run made dealt
  rw [seen_snoc run]
  exact step_dealt dealt made

/-- A dispatcher that was not interrupted only ends without an error when nothing is left. -/
theorem run_through (run : follow c (.initial c {} origin) moves = some s)
    (ended : s.phase = .ended (.ok ())) (free : ¬Interrupted moves) :
    ∃ plan, Reached c origin (reports moves) (seen c deals (.initial c {} origin) moves) plan ∧
      Turn c plan (.ended (.ok ())) := by
  have follows := (run_dealt run).follows
  rw [ended] at follows
  obtain ⟨plan, reached, finished⟩ := follows
  exact ⟨plan, reached, (finished rfl).resolve_left free⟩

/-! ### What is handed over -/

theorem step_handed (made : Step c s move t) : t.handed = s.handed ++ hands s move := by
  cases made with
  | handed offering _ => simp [hands, offering]
  | _ => exact (List.append_nil _).symm

theorem run_handed (run : follow c s moves = some t) :
    t.handed = s.handed ++ seen c hands s moves := by
  refine run_invariant (fun moves t => t.handed = s.handed ++ seen c hands s moves)
    (List.append_nil _).symm ?_ run
  intro before move reached next run made handed
  rw [seen_snoc run, step_handed made, handed, List.append_assoc]

theorem coe_seen_deals (c : Course) (s : State) (moves : List Move) :
    (seen c deals s moves : Multiset Int) = seen c hands s moves + seen c passes s moves := by
  induction moves generalizing s with
  | nil => rfl
  | cons move rest ih =>
    simp only [seen, deals, ← Multiset.coe_add]
    cases step c s move with
    | none =>
      simp only [Option.map_none, Option.getD_none, Multiset.coe_nil]
      abel
    | some t =>
      simp only [Option.map_some, Option.getD_some, ih]
      abel

theorem seen_deals_of_fresh (fresh : .look (.ok true) ∉ moves) :
    seen c deals s moves = seen c hands s moves := by
  refine seen_congr fun move member s => ?_
  have nothing : passes s move = [] := by
    unfold passes
    split
    · exact absurd member fresh
    · rfl
  rw [deals, nothing, List.append_nil]

/-! ### The loss of the one who could ask -/

theorem step_held (held : s.signal.isHeld = true) (keeping : move ≠ .lose)
    (made : Step c s move t) : t.signal.isHeld = true := by
  cases made with
  | lost => exact absurd rfl keeping
  | _ => exact held

/-- A pause is ended by a loss only behind a loss. -/
theorem lose_mem_of_wake (run : follow c (.initial c {} origin) moves = some s)
    (broken : .wake .lost ∈ moves) : .lose ∈ moves := by
  by_contra keeping
  refine (run_keeps (· ≠ .lose) (fun moves s => s.signal.isHeld = true ∧ .wake .lost ∉ moves)
    ⟨rfl, List.not_mem_nil⟩ ?_ (fun move member same => keeping (same ▸ member)) run).2 broken
  rintro before move reached next run keeping made ⟨held, whole⟩
  refine ⟨step_held held keeping made, fun member => ?_⟩
  rcases List.mem_append.mp member with old | new
  · exact whole old
  · obtain rfl := List.mem_singleton.mp new
    cases made with
    | woken _ can => simp [Signal.canWake, held] at can

theorem not_interrupted (run : follow c (.initial c {} origin) moves = some s)
    (unasked : .send true ∉ moves) (keeping : .lose ∉ moves) : ¬Interrupted moves := by
  rintro (asked | broken)
  · exact unasked asked
  · exact keeping (lose_mem_of_wake run broken)

end TaxLedger.Pipeline
