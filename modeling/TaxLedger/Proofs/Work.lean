import TaxLedger.Work

/-!
What the values of work have in common, and what work comes to that has patience enough. A property of
the values of the parts goes over to the values of the whole (`Gives`), and so does the end that the
parts come to (`Ends`).
-/

namespace TaxLedger.Work

variable {σ ε ε' α β : Type}

def Gives (w : Work σ ε α) (P : α → Prop) : Prop := ∀ s a t, w.on s = some (.ok a, t) → P a

namespace Gives

variable {P : α → Prop} {Q : β → Prop}

theorem result {value : Except ε α} (holds : ∀ a, value = .ok a → P a) :
    Gives (ofResult value : Work σ ε α) P := by
  intro s a t worked
  cases worked
  exact holds a rfl

theorem any (w : Work σ ε α) : Gives w fun _ => True := fun _ _ _ _ => trivial

theorem bind {w : Work σ ε α} {f : α → Work σ ε β} (first : Gives w P)
    (next : ∀ a, P a → Gives (f a) Q) : Gives (w >>= f) Q := by
  intro s b t worked
  rw [on_bind] at worked
  obtain ⟨⟨value, s'⟩, before, worked⟩ := Option.bind_eq_some_iff.mp worked
  cases value with
  | error e => cases worked
  | ok a => exact next a (first s a s' before) s' b t worked

theorem ok {a : α} (holds : P a) : Gives (pure a : Work σ ε α) P := by
  intro s b t worked
  cases worked
  exact holds

theorem foldlM {step : β → α → Work σ ε β} (keeps : ∀ b x, Q b → Gives (step b x) Q)
    (xs : List α) {start : β} (begins : Q start) : Gives (xs.foldlM step start) Q := by
  induction xs generalizing start with
  | nil => exact ok begins
  | cons x xs ih =>
    rw [List.foldlM_cons]
    exact bind (keeps start x begins) fun next held => ih held

end Gives

/-! ### Results of the parts -/

theorem on_outcome (w : Work σ ε α) (s : σ) :
    (w.outcome : Work σ ε' (Except ε α)).on s = (w.on s).map fun (result, t) => (.ok result, t) := rfl

/-- Work that comes to one end, as soon as it has patience enough. -/
def Ends (w : Nat → Work σ ε α) (s : σ) (result : Except ε α) (t : σ) : Prop :=
  ∃ enough, ∀ patience, enough ≤ patience → (w patience).on s = some (result, t)

namespace Ends

variable {w : Nat → Work σ ε α} {f : Nat → α → Work σ ε β} {s t u : σ}

theorem of_on {v : Work σ ε α} {result : Except ε α} (same : v.on s = some (result, t)) :
    Ends (fun _ => v) s result t := ⟨0, fun _ _ => same⟩

/-- A turn of a loop takes one of the patience. -/
theorem turn {v : Nat → Work σ ε α} {result : Except ε α}
    (unrolled : ∀ patience, w (patience + 1) = v patience) (ended : Ends v s result t) :
    Ends w s result t := by
  obtain ⟨n, ended⟩ := ended
  refine ⟨n + 1, fun patience enough => ?_⟩
  obtain ⟨less, rfl⟩ : ∃ less, patience = less + 1 := ⟨patience - 1, by omega⟩
  rw [unrolled]
  exact ended less (by omega)

theorem bind {a : α} {result : Except ε β} (first : Ends w s (.ok a) t)
    (next : Ends (fun patience => f patience a) t result u) :
    Ends (fun patience => w patience >>= f patience) s result u := by
  obtain ⟨n, first⟩ := first
  obtain ⟨m, next⟩ := next
  refine ⟨max n m, fun patience enough => ?_⟩
  rw [on_bind, first patience (by omega)]
  exact next patience (by omega)

theorem bind_error {e : ε} (first : Ends w s (.error e) t) :
    Ends (fun patience => w patience >>= f patience) s (.error e) t := by
  obtain ⟨n, first⟩ := first
  refine ⟨n, fun patience enough => ?_⟩
  rw [on_bind, first patience enough]
  rfl

theorem outcome {result : Except ε α} (ended : Ends w s result t) :
    Ends (fun patience => ((w patience).outcome : Work σ ε' (Except ε α))) s (.ok result) t := by
  obtain ⟨n, ended⟩ := ended
  refine ⟨n, fun patience enough => ?_⟩
  rw [on_outcome, ended patience enough]
  rfl

end Ends

end TaxLedger.Work
