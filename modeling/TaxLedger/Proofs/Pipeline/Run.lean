import Mathlib.Data.List.Induction
import TaxLedger.Proofs.Pipeline.Step

/-!
Runs of the pipeline: any list of moves that can be made one after the other. What every single move
keeps holds behind every run (`run_keeps`), also of what was seen on the way.
-/

namespace TaxLedger.Pipeline

variable {c : Course} {s t u : State} {move : Move} {moves : List Move} {α : Type}

/-- What the moves make of the pipeline, one after the other; `none` where one cannot be made. -/
def follow (c : Course) : State → List Move → Option State
  | s, [] => some s
  | s, move :: rest => (step c s move).bind fun t => follow c t rest

/-- What a look at every move of a run shows, in order. -/
def seen (c : Course) (look : State → Move → List α) : State → List Move → List α
  | _, [] => []
  | s, move :: rest => look s move ++ ((step c s move).map fun t => seen c look t rest).getD []

@[simp] theorem follow_nil : follow c s [] = some s := rfl

theorem follow_append (before after : List Move) :
    follow c s (before ++ after) = (follow c s before).bind fun t => follow c t after := by
  induction before generalizing s with
  | nil => rfl
  | cons move rest ih =>
    rw [List.cons_append, follow, follow]
    cases step c s move with
    | none => rfl
    | some t => exact ih

theorem follow_snoc :
    follow c s (moves ++ [move]) = some u ↔ ∃ t, follow c s moves = some t ∧ Step c t move u := by
  rw [follow_append]
  simp only [Option.bind_eq_some_iff, follow, Option.some.injEq, exists_eq_right, step_iff]

theorem seen_snoc {look : State → Move → List α} (run : follow c s moves = some t) :
    seen c look s (moves ++ [move]) = seen c look s moves ++ look t move := by
  induction moves generalizing s with
  | nil =>
    cases run
    rw [List.nil_append, seen, seen, List.nil_append]
    cases step c t move with
    | none => exact List.append_nil _
    | some _ => exact List.append_nil _
  | cons first rest ih =>
    rw [follow] at run
    obtain ⟨next, made, run⟩ := Option.bind_eq_some_iff.mp run
    simp [seen, made, ih run]

theorem seen_congr {look look' : State → Move → List α}
    (same : ∀ move ∈ moves, ∀ s, look s move = look' s move) :
    seen c look s moves = seen c look' s moves := by
  induction moves generalizing s with
  | nil => rfl
  | cons move rest ih =>
    rw [seen, seen, same move List.mem_cons_self]
    cases step c s move with
    | none => rfl
    | some t =>
      have later : seen c look t rest = seen c look' t rest :=
        ih fun m member => same m (List.mem_cons_of_mem _ member)
      rw [Option.map_some, Option.map_some, later]

/-- Induction over a run from its start: a property of the moves made and the state reached that one
more move keeps. -/
theorem run_keeps (allowed : Move → Prop) (kept : List Move → State → Prop) (start : kept [] s)
    (next : ∀ {moves move t u}, follow c s moves = some t → allowed move → Step c t move u →
      kept moves t → kept (moves ++ [move]) u)
    (only : ∀ move ∈ moves, allowed move) (run : follow c s moves = some t) : kept moves t := by
  induction moves using List.reverseRecOn generalizing t with
  | nil =>
    cases run
    exact start
  | append_singleton before move ih =>
    obtain ⟨reached, run, made⟩ := follow_snoc.mp run
    have earlier := ih (fun m member => only m (List.mem_append_left _ member)) run
    exact next run (only move (by simp)) made earlier

/-- Induction over a run where every move is allowed. -/
theorem run_invariant (kept : List Move → State → Prop) (start : kept [] s)
    (next : ∀ {moves move t u}, follow c s moves = some t → Step c t move u → kept moves t →
      kept (moves ++ [move]) u)
    (run : follow c s moves = some t) : kept moves t :=
  run_keeps (fun _ => True) kept start (fun run _ made held => next run made held)
    (fun _ _ => trivial) run

end TaxLedger.Pipeline
