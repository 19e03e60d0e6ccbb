import Mathlib.Algebra.Order.Group.Multiset
import Mathlib.Tactic.Abel
import TaxLedger.Proofs.Pipeline.Run

/-!
Where heights are. Whatever the order of moves, a height that was handed over is queued, held by one
worker or finished, and the queue and the workers hold no more than they may (`Accounted`).
-/

namespace TaxLedger.Pipeline

variable {c : Course} {s t : State} {move : Move} {moves : List Move}

def Worker.load : Worker → Option Int
  | .indexing height _ | .recording height _ => some height
  | .idle | .waiting | .ready | .gone => none

def State.held (s : State) : List Int := s.workers.filterMap Worker.load

/-- The heights that are finished, in the order in which they ended. -/
def State.done (s : State) : List Int := s.finished.map Prod.fst

def takes (s : State) : Move → List Int
  | .take _ => s.queue.items.take 1
  | _ => []

/-! ### The load of the workers -/

theorem load_set {workers : List Worker} {i : Nat} {before : Worker} (after : Worker)
    (present : workers[i]? = some before) :
    (((workers.set i after).filterMap Worker.load : List Int) : Multiset Int) + before.load.toList =
      (workers.filterMap Worker.load : List Int) + after.load.toList := by
  obtain ⟨inside, rfl⟩ := List.getElem?_eq_some_iff.mp present
  have whole : workers = workers.take i ++ workers[i] :: workers.drop (i + 1) := by simp
  have single (w : Worker) : [w].filterMap Worker.load = w.load.toList := by
    cases load : w.load <;> simp [load]
  rw [List.set_eq_take_append_cons_drop, if_pos inside]
  conv_rhs => rw [whole]
  simp only [List.filterMap_append, ← List.singleton_append (l := workers.drop (i + 1)), single,
    ← Multiset.coe_add]
  abel

theorem held_withWorker {i : Nat} {before : Worker} (after : Worker)
    (present : s.workers[i]? = some before) :
    ((s.withWorker i after).held : Multiset Int) + before.load.toList =
      s.held + after.load.toList := load_set after present

theorem held_length_le (s : State) : s.held.length ≤ s.workers.length :=
  List.length_filterMap_le _ _

/-! ### Every height handed over is somewhere -/

/-- Where the heights handed over are, when workers have taken those in `taken`. -/
structure Accounted (c : Course) (taken : List Int) (s : State) : Prop where
  fifo : s.handed = taken ++ s.queue.items
  borne : (taken : Multiset Int) = s.done + s.held
  bound : s.queue.capacity = c.capacity
  room : s.queue.items.length ≤ c.capacity
  crew : s.workers.length = c.workers

theorem initial_accounted (c : Course) (signal : Signal) (plan : Plan) :
    Accounted c [] (.initial c signal plan) where
  fifo := rfl
  borne := by
    have idle : (State.initial c signal plan).held = [] := List.filterMap_replicate_of_none rfl
    rw [idle]
    rfl
  bound := rfl
  room := Nat.zero_le _
  crew := List.length_replicate

/-- A worker that goes on without taking or ending a height leaves the account as it is. -/
theorem withWorker_accounted {taken : List Int} {i : Nat} {before after : Worker}
    (account : Accounted c taken s) (present : s.workers[i]? = some before)
    (same : after.load = before.load) : Accounted c taken (s.withWorker i after) := by
  obtain ⟨fifo, borne, bound, room, crew⟩ := account
  refine ⟨fifo, ?_, bound, room, (List.length_set ..).trans crew⟩
  have load := held_withWorker after present
  rw [same] at load
  rw [borne, ← add_right_cancel load]
  rfl

theorem finish_accounted {taken : List Int} {i : Nat} {height : Int} {ending : Ending}
    {before after : Worker} (account : Accounted c taken s)
    (present : s.workers[i]? = some before) (full : before.load = some height)
    (empty : after.load = none) : Accounted c taken (s.finish i height ending after) := by
  obtain ⟨fifo, borne, bound, room, crew⟩ := account
  refine ⟨fifo, ?_, bound, room, (List.length_set ..).trans crew⟩
  have load := held_withWorker after present
  simp only [full, empty, Option.toList_some, Option.toList_none, Multiset.coe_nil,
    Multiset.coe_singleton, add_zero] at load
  have done : (s.finish i height ending after).done = s.done ++ [height] := by
    simp [State.finish, State.withWorker, State.done]
  rw [borne, done, ← load, ← Multiset.coe_add, Multiset.coe_singleton]
  change _ = _ + ((s.withWorker i after).held : Multiset Int)
  abel

/-- One move keeps the account, with the height that it takes. -/
theorem step_accounted {taken : List Int} (account : Accounted c taken s)
    (made : Step c s move t) : Accounted c (taken ++ takes s move) t := by
  have still (nothing : takes s move = []) (kept : Accounted c taken t) :
      Accounted c (taken ++ takes s move) t := by
    rw [nothing, List.append_nil]
    exact kept
  obtain ⟨fifo, borne, bound, room, crew⟩ := id account
  -- Only a height that is handed over or taken moves in the account; the rest is one worker's own.
  cases made with
  | handed offering vacant =>
    simp only [HeightQueue.hasRoom, Bool.and_eq_true, decide_eq_true_eq] at vacant
    refine still rfl ⟨?_, borne, bound, ?_, crew⟩
    · simp [fifo]
    · simp only [HeightQueue.items_push, List.length_append, List.length_singleton]
      omega
  | @taken i height _ ready front =>
    obtain ⟨rest, items, rfl⟩ := HeightQueue.pop?_eq_some_iff.mp front
    have load := held_withWorker (.indexing height 0) ready
    simp only [Worker.load, Option.toList_none, Option.toList_some, Multiset.coe_nil, add_zero,
      Multiset.coe_singleton] at load
    refine ⟨?_, ?_, bound, ?_, (List.length_set ..).trans crew⟩
    · simpa [takes, items, State.withWorker] using fifo
    · simp only [takes, items, List.take_succ_cons, List.take_zero, ← Multiset.coe_add,
        Multiset.coe_singleton, borne]
      change _ = (s.done : Multiset Int) + ((s.withWorker i (.indexing height 0)).held : Multiset Int)
      rw [load]
      abel
    · simp only [items, List.length_cons] at room
      exact Nat.le_of_succ_le room
  | locked idle _ => exact still rfl (withWorker_accounted account idle rfl)
  | halted waiting _ | checked waiting _ =>
    exact still rfl (withWorker_accounted account waiting rfl)
  | left ready exhausted =>
    have empty := (HeightQueue.isExhausted_iff.mp exhausted).1
    exact still (by simp [takes, empty]) (withWorker_accounted account ready rfl)
  | waited ready empty _ =>
    exact still (by simp [takes, empty]) (withWorker_accounted account ready rfl)
  | indexed busy => exact still rfl (finish_accounted account busy rfl rfl)
  | retried busy _ => exact still rfl (withWorker_accounted account busy rfl)
  | spent busy _ => exact still rfl (withWorker_accounted account busy rfl)
  | recorded failing => exact still rfl (finish_accounted account failing rfl rfl)
  | cutIndexing _ busy => exact still rfl (finish_accounted account busy rfl rfl)
  | cutRecording _ failing => exact still rfl (finish_accounted account failing rfl rfl)
  | cutIdle _ idle => exact still rfl (withWorker_accounted account idle rfl)
  | cutWaiting _ waiting => exact still rfl (withWorker_accounted account waiting rfl)
  | _ => exact still rfl ⟨fifo, borne, bound, room, crew⟩

theorem run_accounted {signal : Signal} {plan : Plan}
    (run : follow c (.initial c signal plan) moves = some s) :
    Accounted c (seen c takes (.initial c signal plan) moves) s := by
  refine run_invariant
    (fun moves s => Accounted c (seen c takes (.initial c signal plan) moves) s)
    (initial_accounted c signal plan) ?_ run
  intro before move reached next run made account
  rw [seen_snoc run]
  exact step_accounted account made

end TaxLedger.Pipeline
