import TaxLedger.Pipeline.Schedule
import TaxLedger.Proofs.Pipeline.Run

/-!
The indexer's own run of the pipeline is a run of moves (`run_follows`). Whatever holds behind every run
of moves holds behind it.
-/

namespace TaxLedger.Pipeline

variable {σ ε ε' α β : Type} {c : Course} {around : Surroundings σ}

def ByMoves (c : Course) (w : Work (State × σ) ε α) : Prop :=
  ∀ p s result q t, w.on (p, s) = some (result, (q, t)) → ∃ moves, follow c p moves = some q

namespace ByMoves

/-- Work that leaves the pipeline as it is. -/
theorem still {w : Work (State × σ) ε α}
    (same : ∀ p s result q t, w.on (p, s) = some (result, (q, t)) → q = p) : ByMoves c w := by
  intro p s result q t worked
  rw [same p s result q t worked]
  exact ⟨[], rfl⟩

theorem result (value : Except ε α) : ByMoves c (Work.ofResult (σ := State × σ) value) :=
  still fun _ _ _ _ _ worked => by cases worked; rfl

theorem look (f : State × σ → α) : ByMoves c (Work.look f : Work (State × σ) ε α) :=
  still fun _ _ _ _ _ worked => by cases worked; rfl

theorem unfinished : ByMoves c (Work.unfinished : Work (State × σ) ε α) :=
  fun _ _ _ _ _ worked => by cases worked

theorem bind {w : Work (State × σ) ε α} {f : α → Work (State × σ) ε β} (first : ByMoves c w)
    (next : ∀ a, ByMoves c (f a)) : ByMoves c (w >>= f) := by
  intro p s result q t worked
  rw [Work.on_bind] at worked
  obtain ⟨⟨value, p', s'⟩, before, worked⟩ := Option.bind_eq_some_iff.mp worked
  obtain ⟨earlier, reached⟩ := first p s value p' s' before
  cases value with
  | error e =>
    cases worked
    exact ⟨earlier, reached⟩
  | ok a =>
    obtain ⟨later, rest⟩ := next a p' s' result q t worked
    exact ⟨earlier ++ later, by rw [follow_append, reached]; exact rest⟩

theorem outcome {w : Work (State × σ) ε α} (kept : ByMoves c w) :
    ByMoves c (w.outcome : Work (State × σ) ε' (Except ε α)) := by
  intro p s result q t worked
  obtain ⟨⟨value, p', s'⟩, before, same⟩ := Option.map_eq_some_iff.mp worked
  cases same
  exact kept p s value q t before

theorem outside (w : Work σ ε α) : ByMoves c (w.onSecond : Work (State × σ) ε α) :=
  still fun p s result q t worked => by
    obtain ⟨_, _, same⟩ := Option.map_eq_some_iff.mp worked
    cases same
    rfl

theorem make (move : Move) : ByMoves c (Pipeline.make c move : Work (State × σ) ε Unit) := by
  intro p s result q t worked
  obtain ⟨_, made, same⟩ := Option.map_eq_some_iff.mp worked
  cases same
  exact ⟨[move], by rw [follow, made]; rfl⟩

theorem tell (line : Option String) :
    ByMoves c (Pipeline.tell around line : Work (State × σ) ε Unit) := by
  cases line with
  | none => exact result (.ok ())
  | some line => exact still fun _ _ _ _ _ worked => by cases worked; rfl

theorem retries {b : Backoff} {action : Work (State × σ) ε Unit}
    {record : ε → Work (State × σ) ε' Unit} (tried : ByMoves c action)
    (recorded : ∀ e, ByMoves c (record e)) (patience : Nat) :
    ByMoves c (b.runOrRecord patience action record) := by
  have runs (patience : Nat) (tries : Nat) : ByMoves c (b.runFrom action patience tries) := by
    induction patience generalizing tries with
    | zero => exact unfinished
    | succ patience ih =>
      rw [Backoff.runFrom_succ]
      refine bind tried.outcome fun value => ?_
      cases value with
      | ok value => exact result (.ok value)
      | error e =>
        dsimp only
        split
        · exact ih _
        · exact result (.error e)
  refine bind (runs patience 0).outcome fun value => ?_
  cases value with
  | ok value => exact result (.ok true)
  | error e => exact bind (recorded e) fun _ => result (.ok false)

theorem heedStop : ByMoves c (Pipeline.heedStop c around : Work (State × σ) ε Unit) := by
  refine bind (look id) fun now => ?_
  dsimp only
  split
  · exact make _
  · exact result (.ok ())

theorem dispatcherTurn {grace : Nat} :
    ByMoves c (Pipeline.dispatcherTurn c grace around : Work (State × σ) ε Bool) := by
  have told (line : Option String) (move : Move) : ByMoves c (do
      Pipeline.tell around line
      Pipeline.make c move
      return true : Work (State × σ) ε Bool) :=
    bind (tell line) fun _ => bind (make move) fun _ => result (.ok true)
  have made (move : Move) : ByMoves c (do
      Pipeline.make c move
      return true : Work (State × σ) ε Bool) :=
    bind (make move) fun _ => result (.ok true)
  have nothing : ByMoves c (return false : Work (State × σ) ε Bool) := result (.ok false)
  refine bind (look Prod.fst) fun p => ?_
  split
  · exact told _ _
  · exact bind (outside _).outcome fun _ => told _ _
  · exact bind (outside _).outcome fun _ => made _
  · split
    · exact made _
    · split
      · exact made _
      · exact nothing
  · exact made _
  · split
    · exact nothing
    · exact made _
  · split
    · exact told _ _
    · exact nothing

theorem receive {patience worker : Nat} :
    ByMoves c (Pipeline.receive c patience around worker : Work (State × σ) ε Unit) := by
  have tried (height : Int) : ByMoves c (tryOnce c around worker height) :=
    bind (outside _).outcome fun value => bind (make _) fun _ => result value
  have recorded (height : Int) (failure : Failure) :
      ByMoves c (recordOnce c around worker height failure : Work (State × σ) ε Unit) :=
    bind (outside _).outcome fun _ => make _
  refine bind (make _) fun _ => bind (look Prod.fst) fun p => ?_
  split
  · refine bind (make _) fun _ => ?_
    split
    · rename_i height _ _
      exact bind (retries (tried height) (recorded height) patience) fun _ => result (.ok ())
    · exact result (.ok ())
  · exact result (.ok ())

theorem workerTurn {patience worker : Nat} :
    ByMoves c (Pipeline.workerTurn c patience around worker : Work (State × σ) ε Bool) := by
  refine bind (look Prod.fst) fun p => ?_
  split
  · split
    · exact result (.ok false)
    · exact bind (make _) fun _ => result (.ok true)
  · split
    · exact bind receive fun _ => result (.ok true)
    · exact result (.ok false)
  · exact result (.ok false)

theorem workersTurn {patience : Nat} (workers : List Nat) :
    ByMoves c (Pipeline.workersTurn c patience around workers : Work (State × σ) ε Bool) := by
  induction workers with
  | nil => exact result (.ok false)
  | cons worker rest ih =>
    refine bind workerTurn fun busy => ?_
    cases busy with
    | true => exact result (.ok true)
    | false => exact ih

theorem runFrom {grace tries : Nat} (patience : Nat) :
    ByMoves c (Pipeline.runFrom c grace around tries patience : Work (State × σ) ε Unit) := by
  induction patience with
  | zero => exact unfinished
  | succ patience ih =>
    refine bind heedStop fun _ => bind dispatcherTurn fun busy => ?_
    cases busy with
    | true => exact ih
    | false =>
      refine bind (workersTurn _) fun busy => ?_
      cases busy with
      | true => exact ih
      | false =>
        refine bind (look _) fun phase => ?_
        cases phase with
        | pausing => exact bind (make _) fun _ => ih
        | _ => exact result (.ok ())

end ByMoves

/-- The indexer's run of the pipeline is a run of moves. -/
theorem run_follows {grace patience : Nat} {p q : State} {s t : σ} {result : Except ε Unit}
    (worked : (run c grace patience around).on (p, s) = some (result, (q, t))) :
    ∃ moves, follow c p moves = some q :=
  ByMoves.runFrom patience p s result q t worked

end TaxLedger.Pipeline
