import TaxLedger.Proofs.Retry
import TaxLedger.Proofs.Retry.Waits

/-!
The budget is spent exactly (`budget_spent_exactly`): a run calls its action until the first success, and
otherwise once more than there are further tries.
-/

namespace TaxLedger.Backoff

variable {σ ε α : Type}

/-! ### The last call of a run -/

/-- Calls are counted from zero. -/
def FirstSuccess (outcomes : Nat → Except ε α) (k : Nat) : Prop :=
  (outcomes k).isOk = true ∧ ∀ n < k, (outcomes n).isOk = false

def Stops (b : Backoff) (outcomes : Nat → Except ε α) (n : Nat) : Prop :=
  (outcomes n).isOk = true ∨ b.allows n = false

def LastCall (b : Backoff) (outcomes : Nat → Except ε α) (n : Nat) : Prop :=
  b.Stops outcomes n ∧ ∀ earlier < n, ¬b.Stops outcomes earlier

variable {b : Backoff} {outcomes : Nat → Except ε α}

theorem not_stops_iff {n : Nat} :
    ¬b.Stops outcomes n ↔ (outcomes n).isOk = false ∧ b.allows n = true := by
  unfold Stops
  rw [not_or, Bool.not_eq_true, Bool.not_eq_false]

theorem lastCall_of_firstSuccess {k : Nat} (finite : 0 ≤ b.maxAttempts)
    (first : FirstSuccess outcomes k) : b.LastCall outcomes (min k b.maxAttempts.toNat) := by
  obtain ⟨success, failed⟩ := first
  constructor
  · rcases Nat.le_total k b.maxAttempts.toNat with within | beyond
    · rw [Nat.min_eq_left within]
      exact .inl success
    · rw [Nat.min_eq_right beyond]
      exact .inr (refuses_of_finite finite)
  · intro earlier before
    rw [not_stops_iff, allows_of_finite finite]
    exact ⟨failed earlier (by omega), by omega⟩

theorem lastCall_of_failures (finite : 0 ≤ b.maxAttempts)
    (failed : ∀ n, (outcomes n).isOk = false) : b.LastCall outcomes b.maxAttempts.toNat := by
  refine ⟨.inr (refuses_of_finite finite), fun earlier before => ?_⟩
  rw [not_stops_iff, allows_of_finite finite]
  exact ⟨failed earlier, before⟩

theorem lastCall_of_endless {k : Nat} (endless : b.maxAttempts < 0)
    (first : FirstSuccess outcomes k) : b.LastCall outcomes k := by
  obtain ⟨success, failed⟩ := first
  refine ⟨.inl success, fun earlier before => ?_⟩
  rw [not_stops_iff]
  exact ⟨failed earlier before, allows_of_negative endless earlier⟩

/-! ### Runs call by call -/

/-- The course of a run: the states before and after each call, with what the call and the wait behind it
come to. -/
structure Course (b : Backoff) (pause : Nat → Work σ ε Unit) (action : Work σ ε α)
    (outcomes : Nat → Except ε α) (before after : Nat → σ) : Prop where
  called : ∀ n, action.on (before n) = some (outcomes n, after n)
  waited : ∀ n, (pause (b.delayNanos (n + 1))).on (after n) = some (.ok (), before (n + 1))

namespace Course

variable {pause : Nat → Work σ ε Unit} {action : Work σ ε α} {before after : Nat → σ}

theorem on_stop (course : b.Course pause action outcomes before after) {n : Nat}
    (stops : b.Stops outcomes n) (patience : Nat) :
    (b.runPausing pause action (patience + 1) n).on (before n) = some (outcomes n, after n) := by
  have called := course.called n
  unfold Stops at stops
  cases outcome : outcomes n with
  | ok value =>
    rw [outcome] at called
    exact runPausing_success called patience
  | error e =>
    rw [outcome] at called stops
    have refused : b.allows n = false := by
      rcases stops with success | refused
      · cases success
      · exact refused
    exact runPausing_refused called refused patience

theorem on_next (course : b.Course pause action outcomes before after) {n : Nat}
    (goesOn : ¬b.Stops outcomes n) (patience : Nat) :
    (b.runPausing pause action (patience + 1) n).on (before n) =
      (b.runPausing pause action patience (n + 1)).on (before (n + 1)) := by
  obtain ⟨failed, allowed⟩ := not_stops_iff.mp goesOn
  have called := course.called n
  cases outcome : outcomes n with
  | ok value =>
    rw [outcome] at failed
    cases failed
  | error e =>
    rw [outcome] at called
    exact runPausing_again called allowed (course.waited n) patience

/-- The calls left are as many as the induction has steps. -/
theorem on_last (course : b.Course pause action outcomes before after) {last : Nat}
    (ends : b.LastCall outcomes last) (rest : Nat) {n patience : Nat} (left : n + rest = last)
    (enough : rest < patience) :
    (b.runPausing pause action patience n).on (before n) = some (outcomes last, after last) := by
  obtain ⟨less, rfl⟩ : ∃ less, patience = less + 1 := ⟨patience - 1, by omega⟩
  induction rest generalizing n less with
  | zero =>
    obtain rfl : n = last := left
    exact course.on_stop ends.1 less
  | succ rest ih =>
    rw [course.on_next (ends.2 n (by omega)) less]
    obtain ⟨fewer, rfl⟩ : ∃ fewer, less = fewer + 1 := ⟨less - 1, by omega⟩
    exact ih (by omega) fewer (by omega)

theorem run_ends (course : b.Course pause action outcomes before after) {last : Nat}
    (ends : b.LastCall outcomes last) :
    Work.Ends (fun patience => b.runPausing pause action patience 0) (before 0) (outcomes last)
      (after last) :=
  ⟨last + 1, fun _ enough => course.on_last ends last (Nat.zero_add last) enough⟩

theorem on_endless (course : b.Course pause action outcomes before after)
    (endless : ∀ n, ¬b.Stops outcomes n) (patience n : Nat) :
    (b.runPausing pause action patience n).on (before n) = none := by
  induction patience generalizing n with
  | zero => rfl
  | succ patience ih =>
    rw [course.on_next (endless n) patience]
    exact ih (n + 1)

end Course

/-! ### Notes of a run -/

structure Notes (ε : Type) where
  calls : Nat := 0
  waits : List Nat := []
  recorded : List ε := []

namespace Notes

def call (outcomes : Nat → Except ε α) : Work (Notes ε) ε α :=
  Work.ofFunction fun notes => (outcomes notes.calls, { notes with calls := notes.calls + 1 })

def wait (nanos : Nat) : Work (Notes ε) ε Unit :=
  Work.change fun notes => { notes with waits := notes.waits ++ [nanos] }

def record (e : ε) : Work (Notes ε) ε Unit :=
  Work.change fun notes => { notes with recorded := notes.recorded ++ [e] }

theorem course_run (b : Backoff) (outcomes : Nat → Except ε α) :
    b.Course (fun _ => return ()) (call outcomes) outcomes (fun n => { calls := n })
      (fun n => { calls := n + 1 }) :=
  ⟨fun _ => rfl, fun _ => rfl⟩

theorem course_waiting (b : Backoff) (outcomes : Nat → Except ε α) :
    b.Course wait (call outcomes) outcomes (fun n => { calls := n, waits := b.waits n })
      (fun n => { calls := n + 1, waits := b.waits n }) := by
  refine ⟨fun _ => rfl, fun n => ?_⟩
  rw [b.waits_succ]
  rfl

end Notes

/-- A recorded run has no value of its own. -/
def verdicts (outcomes : Nat → Except ε α) (n : Nat) : Except ε Unit := (outcomes n).map fun _ => ()

theorem isOk_verdicts (outcomes : Nat → Except ε α) (n : Nat) :
    (verdicts outcomes n).isOk = (outcomes n).isOk := by
  unfold verdicts
  cases outcomes n <;> rfl

theorem stops_verdicts_iff {n : Nat} : b.Stops (verdicts outcomes) n ↔ b.Stops outcomes n := by
  unfold Stops
  rw [isOk_verdicts]

theorem LastCall.verdicts {n : Nat} (last : b.LastCall outcomes n) :
    b.LastCall (verdicts outcomes) n :=
  ⟨stops_verdicts_iff.mpr last.1, fun earlier before stops =>
    last.2 earlier before (stops_verdicts_iff.mp stops)⟩

def failure : Except ε α → List ε
  | .ok _ => []
  | .error e => [e]

/-- A run ends with call `n`, counted from zero. Its result is that of the call, the waits before are
those of `n` further tries, and a failure is recorded once. -/
structure EndsAt (b : Backoff) (outcomes : Nat → Except ε α) (n : Nat) : Prop where
  result : Work.Ends (fun patience => b.run patience (Notes.call outcomes)) {} (outcomes n)
    { calls := n + 1 }
  waiting : Work.Ends (fun patience => b.runPausing Notes.wait (Notes.call outcomes) patience 0) {}
    (outcomes n) { calls := n + 1, waits := b.waits n }
  recording : Work.Ends
    (fun patience => b.runOrRecord patience (Notes.call (verdicts outcomes)) Notes.record) {}
    (.ok (outcomes n).isOk : Except ε Bool) { calls := n + 1, recorded := failure (outcomes n) }

theorem runOrRecord_ends {n : Nat} (last : b.LastCall outcomes n) :
    Work.Ends (fun patience => b.runOrRecord patience (Notes.call (verdicts outcomes)) Notes.record)
      {} (.ok (outcomes n).isOk : Except ε Bool)
      { calls := n + 1, recorded := failure (outcomes n) } := by
  have ran := (Notes.course_run b (verdicts outcomes)).run_ends last.verdicts
  refine ran.outcome.bind ?_
  unfold verdicts
  cases outcomes n with
  | ok value => exact .of_on rfl
  | error e => exact .of_on rfl

theorem endsAt_of_lastCall {n : Nat} (last : b.LastCall outcomes n) : b.EndsAt outcomes n where
  result := (Notes.course_run b outcomes).run_ends last
  waiting := (Notes.course_waiting b outcomes).run_ends last
  recording := runOrRecord_ends last

structure NeverEnds (b : Backoff) (outcomes : Nat → Except ε α) : Prop where
  result : ∀ patience, (b.run patience (Notes.call outcomes)).on {} = none
  waiting : ∀ patience, (b.runPausing Notes.wait (Notes.call outcomes) patience 0).on {} = none
  recording : ∀ patience,
    (b.runOrRecord patience (Notes.call (verdicts outcomes)) Notes.record).on {} = none

theorem neverEnds_of_endless (endless : b.maxAttempts < 0)
    (failed : ∀ n, (outcomes n).isOk = false) : b.NeverEnds outcomes := by
  have goesOn : ∀ n, ¬b.Stops outcomes n := fun n =>
    not_stops_iff.mpr ⟨failed n, allows_of_negative endless n⟩
  have unheard : ∀ n, ¬b.Stops (verdicts outcomes) n := fun n stops =>
    goesOn n (stops_verdicts_iff.mp stops)
  refine ⟨fun patience => (Notes.course_run b outcomes).on_endless goesOn patience 0,
    fun patience => (Notes.course_waiting b outcomes).on_endless goesOn patience 0,
    fun patience => ?_⟩
  have ran := (Notes.course_run b (verdicts outcomes)).on_endless unheard patience 0
  unfold runOrRecord run runFrom
  rw [Work.on_bind, Work.on_outcome, ran]
  rfl

/-- With a budget that has an end the last call is the first success, or the one after the last further
try; without one it is the first success. The waits never become shorter, and none is longer than the
limit, which is at least two seconds. What is said of a call that ends a run is said for fewer than
`2 ^ 32` failures before it, the number up to which tries are counted. -/
theorem budget_spent_exactly (b : Backoff) (outcomes : Nat → Except ε α) :
    (0 ≤ b.maxAttempts →
      (∀ k, FirstSuccess outcomes k → b.EndsAt outcomes (min k b.maxAttempts.toNat)) ∧
      ((∀ n, (outcomes n).isOk = false) → b.EndsAt outcomes b.maxAttempts.toNat)) ∧
    (b.maxAttempts < 0 →
      (∀ k, FirstSuccess outcomes k → b.EndsAt outcomes k) ∧
      ((∀ n, (outcomes n).isOk = false) → b.NeverEnds outcomes)) ∧
    (∀ n, (b.waits n).Pairwise (· ≤ ·) ∧ ∀ wait ∈ b.waits n, wait ≤ b.maxWait * nanosPerSecond) ∧
    ∀ maxAttempts maxWait, (ofSeconds maxAttempts maxWait).maxAttempts = maxAttempts ∧
      2 ≤ (ofSeconds maxAttempts maxWait).maxWait := by
  refine ⟨fun finite => ⟨fun k first => ?_, fun failed => ?_⟩,
    fun endless => ⟨fun k first => ?_, fun failed => ?_⟩, fun n => ⟨?_, fun wait member => ?_⟩,
    fun maxAttempts maxWait => ⟨rfl, two_le_maxWait maxAttempts maxWait⟩⟩
  · exact endsAt_of_lastCall (lastCall_of_firstSuccess finite first)
  · exact endsAt_of_lastCall (lastCall_of_failures finite failed)
  · exact endsAt_of_lastCall (lastCall_of_endless endless first)
  · exact neverEnds_of_endless endless failed
  · exact b.waits_sorted n
  · exact b.waits_le member

/-- Calls that fail twice before they succeed, and calls that always fail. -/
theorem budget_spent_exactly_of_flaky :
    let flaky : Nat → Except String Nat := fun n => if n < 2 then .error "down" else .ok n
    let down : Nat → Except String Nat := fun _ => .error "down"
    (ofSeconds 5 2).EndsAt flaky 2 ∧ (ofSeconds 1 2).EndsAt flaky 1 ∧
      (ofSeconds (-1) 2).EndsAt flaky 2 ∧ (ofSeconds 1 2).EndsAt down 1 ∧
      (ofSeconds (-1) 2).NeverEnds down := by
  intro flaky down
  have first : FirstSuccess flaky 2 := by
    refine ⟨rfl, fun n before => ?_⟩
    simp only [flaky, before, if_true]
    rfl
  exact ⟨((budget_spent_exactly (ofSeconds 5 2) flaky).1 (by decide)).1 2 first,
    ((budget_spent_exactly (ofSeconds 1 2) flaky).1 (by decide)).1 2 first,
    ((budget_spent_exactly (ofSeconds (-1) 2) flaky).2.1 (by decide)).1 2 first,
    ((budget_spent_exactly (ofSeconds 1 2) down).1 (by decide)).2 fun _ => rfl,
    ((budget_spent_exactly (ofSeconds (-1) 2) down).2.1 (by decide)).2 fun _ => rfl⟩

end TaxLedger.Backoff
