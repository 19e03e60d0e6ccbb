/-!
# Work

Work changes a state and ends with a value or an error; a change stays when the work fails. Work that
may go on without end is given a patience, and it has no result when that is used up.
-/

namespace TaxLedger

/-- Work on a state `σ` that ends with a value or an error, or not within its patience. -/
abbrev Work (σ ε α : Type) : Type := ExceptT ε (StateT σ Option) α

namespace Work

variable {σ τ ε ε' α : Type}

def on (w : Work σ ε α) (s : σ) : Option (Except ε α × σ) := StateT.run (ExceptT.run w) s

def ofFunction (f : σ → Except ε α × σ) : Work σ ε α := ExceptT.mk fun s => some (f s)

/-- Work whose patience is used up. -/
def unfinished : Work σ ε α := ExceptT.mk fun _ => none

def ofResult (result : Except ε α) : Work σ ε α := ofFunction fun s => (result, s)

def change (f : σ → σ) : Work σ ε Unit := ofFunction fun s => (.ok (), f s)

def look (f : σ → α) : Work σ ε α := ofFunction fun s => (.ok (f s), s)

/-- The same work with its error as a part of the value. -/
def outcome (w : Work σ ε α) : Work σ ε' (Except ε α) :=
  ExceptT.mk fun s => (w.on s).map fun (result, s) => (.ok result, s)

def mapFailure (f : ε → ε') (w : Work σ ε α) : Work σ ε' α :=
  ExceptT.mk fun s => (w.on s).map fun (result, s) => (result.mapError f, s)

/-- The same work on the second part of a state. -/
def onSecond (w : Work σ ε α) : Work (τ × σ) ε α :=
  ExceptT.mk fun (t, s) => (w.on s).map fun (result, s) => (result, (t, s))

/-- Work on a pair as work on its second part. The first part begins as `start`, and what becomes of it
is told. -/
def beside (start : τ) (w : Work (τ × σ) ε α) : Work σ ε (α × τ) :=
  ExceptT.mk fun s => (w.on (start, s)).map fun (result, (t, s)) =>
    (result.map fun value => (value, t), s)

/-- Work goes on with the value of the work before it, and stops at an error. -/
theorem on_bind {β : Type} (w : Work σ ε α) (f : α → Work σ ε β) (s : σ) :
    (w >>= f).on s = (w.on s).bind fun
      | (.ok a, t) => (f a).on t
      | (.error e, t) => some (.error e, t) := by
  simp only [on, bind, ExceptT.bind, ExceptT.run, ExceptT.mk, StateT.run, StateT.bind]
  congr
  funext outcome
  obtain ⟨result, t⟩ := outcome
  cases result <;> rfl

end Work

end TaxLedger
