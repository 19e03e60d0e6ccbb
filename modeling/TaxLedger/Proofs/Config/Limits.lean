import TaxLedger.Proofs.Binary64
import TaxLedger.Proofs.Config.Sized

/-!
What an accepted configuration may still ask too much of. Times in whole seconds always have nanoseconds
(`nanosOfWholeSeconds?_of_le`). A pause between heights and the queue of heights have a limit that the
checks do not look at, and the indexer can start exactly if both are below it
(`canStart_iff_of_accepted`).
-/

namespace TaxLedger.Config

/-- All times can be waited for, and the queue of heights can be made. -/
structure CanStart (c : Config) : Prop where
  request : c.requestNanos?.isSome
  grace : c.graceNanos?.isSome
  throttle : c.throttleNanos?.isSome
  queue : isQueueCapacity c.base.queueSize

theorem nanosOfWholeSeconds?_of_le {seconds : Nat} (sized : seconds ≤ nat64Max) :
    nanosOfWholeSeconds? seconds = some (seconds * 1000000000) := if_pos sized

/-- Rounding to nanoseconds takes no pause over the limit: a number near it is whole. -/
theorem nanosOfSeconds?_isSome_iff {x : Binary64} (finite : x.isFinite) :
    (nanosOfSeconds? x).isSome ↔ |x.toRat| < 2 ^ 64 := by
  have limit : x.ratio.1 < (nat64Max + 1) * x.ratio.2 ↔ |x.toRat| < 2 ^ 64 := by
    have cast : ((nat64Max + 1 : Nat) : ℚ) = 2 ^ 64 := by norm_num [nat64Max]
    rw [← cast]
    exact x.ratio_lt_iff (nat64Max + 1)
  have some_iff : (nanosOfSeconds? x).isSome ↔
      Binary64.roundHalfEven (x.ratio.1 * 1000000000) x.ratio.2 < (nat64Max + 1) * 1000000000 := by
    simp only [nanosOfSeconds?, finite, Bool.true_and, decide_eq_true_eq, Option.isSome_ite]
  rw [some_iff, ← limit]
  rcases x.whole_or_small with whole | small
  · rw [whole, Binary64.roundHalfEven_whole, Nat.mul_one]
    exact Nat.mul_lt_mul_right (by decide)
  · have small : x.ratio.1 < 9007199254740992 := small
    have den : 0 < x.ratio.2 := x.ratio_den_pos
    have rounded := Binary64.roundHalfEven_le (x.ratio.1 * 1000000000) x.ratio.2
    have quotient := Nat.div_le_self (x.ratio.1 * 1000000000) x.ratio.2
    have large : nat64Max + 1 ≤ (nat64Max + 1) * x.ratio.2 := Nat.le_mul_of_pos_right _ den
    have bound : nat64Max = 18446744073709551615 := rfl
    constructor
    · intro _
      omega
    · intro _
      omega

theorem isQueueCapacity_iff {n : Nat} (positive : 0 < n) : isQueueCapacity n ↔ n < 2 ^ 61 := by
  have bound : nat64Max / 8 = 2 ^ 61 - 1 := rfl
  simp only [isQueueCapacity, positive, decide_true, Bool.true_and, decide_eq_true_eq, bound]
  omega

namespace Accepted

variable {c : Config} (accepted : c.Accepted)

include accepted

theorem throttling_nonneg : 0 ≤ c.base.throttling.toRat := by
  have nonnegative := accepted.nonnegative
  generalize c.base.throttling = x at nonnegative
  cases x with
  | finite negative m e fits =>
    cases negative with
    | false =>
      simp only [Binary64.toRat, Bool.false_eq_true, if_false, one_mul]
      positivity
    | true =>
      have zero : m = 0 := by simpa [Binary64.isNegative, Binary64.isZero] using nonnegative
      simp [Binary64.toRat, zero]
  | infinite negative => exact le_rfl
  | nan => exact le_rfl

theorem throttleNanos?_isSome_iff : c.throttleNanos?.isSome ↔ c.base.throttling.toRat < 2 ^ 64 := by
  rw [throttleNanos?, nanosOfSeconds?_isSome_iff accepted.isFinite,
    abs_of_nonneg accepted.throttling_nonneg]

end Accepted

/-- With an accepted configuration the indexer can start exactly if a pause between heights is shorter
than 2 ^ 64 seconds and the queue is shorter than 2 ^ 61 heights. -/
theorem canStart_iff_of_accepted (c : Config) (ok : c.validate = .ok ()) (sized : c.Sized) :
    c.CanStart ↔ c.base.throttling.toRat < 2 ^ 64 ∧ c.base.queueSize < 2 ^ 61 := by
  have accepted := (validate_ok_iff c).mp ok
  constructor
  · intro start
    exact ⟨accepted.throttleNanos?_isSome_iff.mp start.throttle,
      (isQueueCapacity_iff accepted.queueSize).mp start.queue⟩
  · intro ⟨short, queue⟩
    refine ⟨?_, ?_, ?_, ?_⟩
    · rw [requestNanos?, nanosOfWholeSeconds?_of_le sized.timeout]
      rfl
    · rw [graceNanos?, nanosOfWholeSeconds?_of_le sized.shutdownGrace]
      rfl
    · exact accepted.throttleNanos?_isSome_iff.mpr short
    · exact (isQueueCapacity_iff accepted.queueSize).mpr queue

def plain (throttling : Binary64) (queueSize : Nat) : Config where
  chain := ⟨"osmosis-1", "osmosis", "osmo"⟩
  node := { rpc := "http://localhost:26657", api := "http://localhost:1317" }
  base := { throttling, queueSize }

theorem canStart_iff_of_plain :
    let c := plain (.ofInt 2) 100
    c.validate = .ok () ∧ c.Sized ∧
      (c.CanStart ↔ c.base.throttling.toRat < 2 ^ 64 ∧ c.base.queueSize < 2 ^ 61) ∧ c.CanStart := by
  have ok : (plain (.ofInt 2) 100).validate = .ok () := by decide +kernel
  have sized : (plain (.ofInt 2) 100).Sized := ⟨by decide, by decide⟩
  exact ⟨ok, sized, canStart_iff_of_accepted _ ok sized,
    ⟨by decide, by decide, by decide +kernel, by decide⟩⟩

/-- A pause of 1e20 seconds and a queue for 2 ^ 62 heights are accepted, and neither can be had. -/
theorem accepted_cannot_start :
    let long := plain (.ofScientific false 1 20) 100
    let wide := plain (.ofInt 2) 4611686018427387904
    (long.validate = .ok () ∧ long.Sized ∧ long.throttleNanos? = none ∧ ¬ long.CanStart) ∧
      wide.validate = .ok () ∧ wide.Sized ∧ isQueueCapacity wide.base.queueSize = false ∧
        ¬ wide.CanStart := by
  have unthrottled : (plain (.ofScientific false 1 20) 100).throttleNanos? = none := by
    decide +kernel
  have unqueued : isQueueCapacity 4611686018427387904 = false := by decide
  refine ⟨⟨by decide +kernel, ⟨by decide, by decide⟩, unthrottled, fun start => ?_⟩,
    by decide +kernel, ⟨by decide, by decide⟩, unqueued, fun start => ?_⟩
  · have some := start.throttle
    rw [unthrottled] at some
    cases some
  · have made : isQueueCapacity 4611686018427387904 := start.queue
    rw [unqueued] at made
    cases made

end TaxLedger.Config
