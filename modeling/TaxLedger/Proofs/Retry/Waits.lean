import Mathlib.Order.Monotone.Basic
import TaxLedger.Proofs.Binary64.Rounding
import TaxLedger.Retry

/-!
The waits between tries. They never become shorter (`delayNanos_monotone`) and never longer than the limit
(`delayNanos_le`), which is at least two seconds.
-/

namespace TaxLedger.Backoff

open Binary64 (magnitudeGe_iff ofInt_le_of_le ratio_den_pos ratio_lt_iff roundHalfEven_le_of_le
  roundHalfEven_mono)

theorem two_le_maxWait (maxAttempts maxWait : Int) : 2 ≤ (ofSeconds maxAttempts maxWait).maxWait :=
  Nat.le_max_right _ _

/-! ### Growth -/

/-- The wait before a try in seconds, as a rational number. -/
def growthAt (attempt : Nat) : ℚ := |(unlimitedDelay attempt).toRat|

/-- Every power of the growth is rounded on its own, so that they are compared one by one; there are no
more of them than up to the steepest. -/
theorem growthAt_le_succ (attempt : Nat) : growthAt attempt ≤ growthAt (attempt + 1) := by
  by_cases steep : steepest ≤ attempt
  · have same : unlimitedDelay (attempt + 1) = unlimitedDelay attempt := by
      rw [unlimitedDelay, unlimitedDelay, Nat.min_eq_right steep, Nat.min_eq_right (by omega)]
    rw [growthAt, growthAt, same]
  · have powers : ∀ n < steepest,
        (unlimitedDelay (n + 1)).magnitudeGe (unlimitedDelay n) = true := by
      decide +kernel
    exact (magnitudeGe_iff _ _).mp (powers attempt (by omega))

/-! ### The limit -/

variable (b : Backoff)

def AtLimit (attempt : Nat) : Prop :=
  (unlimitedDelay attempt).magnitudeGe (Binary64.ofInt b.maxWait) = true

theorem delayNanos_of_atLimit {attempt : Nat} (limit : b.AtLimit attempt) :
    b.delayNanos attempt = b.maxWait * nanosPerSecond := if_pos limit

theorem delayNanos_of_not_atLimit {attempt : Nat} (below : ¬b.AtLimit attempt) :
    b.delayNanos attempt =
      Binary64.roundHalfEven ((unlimitedDelay attempt).ratio.1 * nanosPerSecond)
        (unlimitedDelay attempt).ratio.2 := if_neg below

theorem AtLimit.succ {attempt : Nat} (limit : b.AtLimit attempt) : b.AtLimit (attempt + 1) := by
  unfold AtLimit at limit ⊢
  rw [magnitudeGe_iff] at limit ⊢
  exact limit.trans (growthAt_le_succ attempt)

/-- Below the limit as it is held is below the limit itself. -/
theorem growthAt_lt {attempt : Nat} (below : ¬b.AtLimit attempt) : growthAt attempt < b.maxWait := by
  unfold AtLimit at below
  rw [magnitudeGe_iff] at below
  by_contra above
  exact below (ofInt_le_of_le (not_lt.mp above))

theorem delayNanos_le (attempt : Nat) : b.delayNanos attempt ≤ b.maxWait * nanosPerSecond := by
  by_cases limit : b.AtLimit attempt
  · rw [b.delayNanos_of_atLimit limit]
  · rw [b.delayNanos_of_not_atLimit limit]
    have seconds := (ratio_lt_iff _ _).mpr (b.growthAt_lt limit)
    refine roundHalfEven_le_of_le (ratio_den_pos _) ?_
    rw [Nat.mul_right_comm]
    exact Nat.mul_le_mul_right _ seconds.le

theorem delayNanos_le_succ (attempt : Nat) : b.delayNanos attempt ≤ b.delayNanos (attempt + 1) := by
  by_cases limit : b.AtLimit (attempt + 1)
  · rw [b.delayNanos_of_atLimit limit]
    exact b.delayNanos_le attempt
  · have before : ¬b.AtLimit attempt := fun early => limit (early.succ b)
    rw [b.delayNanos_of_not_atLimit limit, b.delayNanos_of_not_atLimit before]
    refine roundHalfEven_mono (ratio_den_pos _) (ratio_den_pos _) ?_
    have grows := (magnitudeGe_iff _ _).mpr (growthAt_le_succ attempt)
    rw [Binary64.magnitudeGe, decide_eq_true_eq] at grows
    rw [Nat.mul_right_comm, Nat.mul_right_comm (unlimitedDelay (attempt + 1)).ratio.1]
    exact Nat.mul_le_mul_right _ grows

theorem delayNanos_monotone : Monotone b.delayNanos := monotone_nat_of_le_succ b.delayNanos_le_succ

/-! ### The waits of a run -/

def waits (tries : Nat) : List Nat := (List.range tries).map fun n => b.delayNanos (n + 1)

theorem waits_succ (tries : Nat) :
    b.waits (tries + 1) = b.waits tries ++ [b.delayNanos (tries + 1)] := by
  simp [waits, List.range_succ]

theorem waits_sorted (tries : Nat) : (b.waits tries).Pairwise (· ≤ ·) := by
  rw [waits, List.pairwise_map]
  exact List.pairwise_lt_range.imp fun earlier => b.delayNanos_monotone (by omega)

theorem waits_le {tries wait : Nat} (member : wait ∈ b.waits tries) :
    wait ≤ b.maxWait * nanosPerSecond := by
  obtain ⟨n, _, rfl⟩ := List.mem_map.mp member
  exact b.delayNanos_le (n + 1)

example : (ofSeconds 5 3).waits 4 = [1500000000, 2250000000, 3000000000, 3000000000] := by
  decide +kernel

end TaxLedger.Backoff
