import TaxLedger.Proofs.Work
import TaxLedger.Retry

/-!
Tries at something that may fail. With a budget that has an end the tries come to one
(`Backoff.exists_tries`), and with patience enough a run comes to the same (`Tries.run_ends`).
-/

namespace TaxLedger.Backoff

variable {σ τ ε α β : Type} {b : Backoff} {attempt : τ → Except ε α → τ → Prop}

/-! ### One call -/

section Call

variable {pause : Nat → Work σ ε Unit} {action : Work σ ε α} {tries : Nat} {s t u : σ}

theorem runPausing_success {a : α} (called : action.on s = some (.ok a, t)) (patience : Nat) :
    (b.runPausing pause action (patience + 1) tries).on s = some (.ok a, t) := by
  unfold runPausing
  rw [Work.on_bind, Work.on_outcome, called]
  rfl

theorem runPausing_refused {e : ε} (called : action.on s = some (.error e, t))
    (refused : b.allows tries = false) (patience : Nat) :
    (b.runPausing pause action (patience + 1) tries).on s = some (.error e, t) := by
  unfold runPausing
  rw [Work.on_bind, Work.on_outcome, called]
  simp only [Option.map_some, Option.bind_some, refused, Bool.false_eq_true, if_false]
  rfl

theorem runPausing_again {e : ε} (called : action.on s = some (.error e, t))
    (allowed : b.allows tries = true)
    (waited : (pause (b.delayNanos (tries + 1))).on t = some (.ok (), u)) (patience : Nat) :
    (b.runPausing pause action (patience + 1) tries).on s =
      (b.runPausing pause action patience (tries + 1)).on u := by
  rw [runPausing]
  rw [Work.on_bind, Work.on_outcome, called]
  simp only [Option.map_some, Option.bind_some, allowed, if_true]
  rw [Work.on_bind, waited]
  rfl

end Call

/-! ### Tries -/

/-- How tries end, after `tries` that failed: with the first success, or with the error of the last try
that the budget allows. -/
inductive Tries (b : Backoff) (attempt : τ → Except ε α → τ → Prop) :
    Nat → τ → Except ε α → τ → Prop
  | success {tries : Nat} {s t : τ} {a : α} (done : attempt s (.ok a) t) :
      Tries b attempt tries s (.ok a) t
  | again {tries : Nat} {s t u : τ} {e : ε} {result : Except ε α} (failed : attempt s (.error e) t)
      (allowed : b.allows tries = true) (later : Tries b attempt (tries + 1) t result u) :
      Tries b attempt tries s result u
  | spent {tries : Nat} {s t : τ} {e : ε} (failed : attempt s (.error e) t)
      (last : b.allows tries = false) : Tries b attempt tries s (.error e) t

theorem allows_of_finite (finite : 0 ≤ b.maxAttempts) (tries : Nat) :
    b.allows tries = true ↔ tries < b.maxAttempts.toNat := by
  simp only [allows, Bool.or_eq_true, decide_eq_true_eq]
  omega

theorem allows_of_negative (endless : b.maxAttempts < 0) (tries : Nat) : b.allows tries = true := by
  unfold allows
  rw [Bool.or_eq_true, decide_eq_true_eq]
  exact .inl endless

theorem refuses_of_finite (finite : 0 ≤ b.maxAttempts) : b.allows b.maxAttempts.toNat = false := by
  rw [← Bool.not_eq_true, allows_of_finite finite]
  exact Nat.lt_irrefl _

/-- Every try takes one of the budget. -/
theorem exists_tries {P : τ → Prop} (finite : 0 ≤ b.maxAttempts)
    (ends : ∀ s, P s → ∃ result t, attempt s result t ∧ P t) (tries : Nat) {s : τ} (holds : P s) :
    ∃ result t, b.Tries attempt tries s result t ∧ P t := by
  generalize left : b.maxAttempts.toNat - tries = rest
  induction rest generalizing tries s with
  | zero =>
    obtain ⟨result, t, first, held⟩ := ends s holds
    cases result with
    | ok a => exact ⟨_, _, .success first, held⟩
    | error e =>
      refine ⟨_, _, .spent first ?_, held⟩
      rw [← Bool.not_eq_true, allows_of_finite finite]
      omega
  | succ rest ih =>
    obtain ⟨result, t, first, held⟩ := ends s holds
    cases result with
    | ok a => exact ⟨_, _, .success first, held⟩
    | error e =>
      obtain ⟨result, u, later, kept⟩ := ih (tries + 1) held (by omega)
      exact ⟨_, _, .again first ((allows_of_finite finite tries).mpr (by omega)) later, kept⟩

namespace Tries

variable {action : Nat → Work σ ε β} {g : α → β} (place : τ → σ) {tries : Nat} {s t : τ}
  {result : Except ε α}

/-- The tries and the turns of the loop are the same, whatever patience the action has for itself. -/
theorem runFrom_ends
    (realized : ∀ s result t, attempt s result t →
      Work.Ends action (place s) (result.map g) (place t))
    (tried : b.Tries attempt tries s result t) :
    ∃ enough, ∀ patience turns, enough ≤ patience → enough ≤ turns →
      (b.runFrom (action patience) turns tries).on (place s) = some (result.map g, place t) := by
  induction tried with
  | success done =>
    obtain ⟨n, ended⟩ := realized _ _ _ done
    refine ⟨n + 1, fun patience turns enough more => ?_⟩
    obtain ⟨turns, rfl⟩ : ∃ less, turns = less + 1 := ⟨turns - 1, by omega⟩
    exact runPausing_success (ended patience (by omega)) turns
  | again failed allowed later ih =>
    obtain ⟨n, ended⟩ := realized _ _ _ failed
    obtain ⟨m, ih⟩ := ih
    refine ⟨max n m + 1, fun patience turns enough more => ?_⟩
    obtain ⟨turns, rfl⟩ : ∃ less, turns = less + 1 := ⟨turns - 1, by omega⟩
    refine (runPausing_again (ended patience (by omega)) allowed rfl turns).trans ?_
    exact ih patience turns (by omega) (by omega)
  | spent failed last =>
    obtain ⟨n, ended⟩ := realized _ _ _ failed
    refine ⟨n + 1, fun patience turns enough more => ?_⟩
    obtain ⟨turns, rfl⟩ : ∃ less, turns = less + 1 := ⟨turns - 1, by omega⟩
    exact runPausing_refused (ended patience (by omega)) last turns

theorem run_ends
    (realized : ∀ s result t, attempt s result t →
      Work.Ends action (place s) (result.map g) (place t))
    (tried : b.Tries attempt 0 s result t) :
    Work.Ends (fun patience => b.run patience (action patience)) (place s) (result.map g)
      (place t) := by
  obtain ⟨n, ended⟩ := tried.runFrom_ends place realized
  exact ⟨n, fun patience enough => ended patience patience enough enough⟩

end Tries

end TaxLedger.Backoff
