import Mathlib.Algebra.Field.Rat
import Mathlib.Algebra.Order.Field.Basic
import Mathlib.Algebra.Order.Field.Power
import Mathlib.Algebra.Order.Ring.Rat
import Mathlib.Tactic.FieldSimp
import Mathlib.Tactic.NormNum
import Mathlib.Tactic.Positivity
import Mathlib.Tactic.Ring
import TaxLedger.Binary64

/-!
The numbers that are held in double precision. The ratio that the operations work with is the absolute
value (`ratio_eq`); a number that is not whole is small (`whole_or_small`), so that rounding the ratio
changes no comparison with a large whole number.
-/

namespace TaxLedger.Binary64

/-- The number that is held; zero for what is not finite. -/
def toRat : Binary64 → ℚ
  | .finite negative m e _ => (if negative then -1 else 1) * (m * (2 : ℚ) ^ e)
  | _ => 0

theorem twoTo_pos (n : Nat) : 0 < twoTo n := Nat.pow_pos (by decide)

theorem cast_twoTo (n : Nat) : (twoTo n : ℚ) = 2 ^ n := by
  rw [twoTo, Nat.pow_eq]
  push_cast
  rfl

theorem scaleRatio_den_pos (m : Nat) (e : Int) : 0 < (scaleRatio m 1 e).2 := by
  simp only [scaleRatio]
  split
  · exact Nat.one_pos
  · exact Nat.mul_pos Nat.one_pos (twoTo_pos _)

theorem ratio_den_pos (x : Binary64) : 0 < x.ratio.2 := by
  cases x with
  | finite negative m e fits => exact scaleRatio_den_pos m e
  | infinite negative => exact Nat.one_pos
  | nan => exact Nat.one_pos

theorem scaleRatio_eq (m : Nat) (e : Int) :
    ((scaleRatio m 1 e).1 : ℚ) / (scaleRatio m 1 e).2 = m * (2 : ℚ) ^ e := by
  simp only [scaleRatio]
  split
  · rename_i up
    have power : (2 : ℚ) ^ e = 2 ^ e.toNat := by
      rw [← zpow_natCast, Int.toNat_of_nonneg up]
    rw [power, Nat.cast_mul, cast_twoTo, Nat.cast_one, div_one]
  · rename_i down
    have power : (2 : ℚ) ^ e = (2 ^ (-e).toNat)⁻¹ := by
      rw [← zpow_natCast, Int.toNat_of_nonneg (by omega), zpow_neg, inv_inv]
    rw [power, Nat.one_mul, cast_twoTo, div_eq_mul_inv]

theorem ratio_eq (x : Binary64) : (x.ratio.1 : ℚ) / x.ratio.2 = |x.toRat| := by
  cases x with
  | finite negative m e fits =>
    have positive : 0 ≤ (m : ℚ) * 2 ^ e := by positivity
    rw [ratio, scaleRatio_eq, toRat]
    cases negative
    · simp [abs_of_nonneg positive]
    · simp [abs_of_nonneg positive]
  | infinite negative => simp [ratio, toRat]
  | nan => simp [ratio, toRat]

theorem ratio_lt_iff (x : Binary64) (n : Nat) :
    x.ratio.1 < n * x.ratio.2 ↔ |x.toRat| < n := by
  have den : (0 : ℚ) < x.ratio.2 := by exact_mod_cast ratio_den_pos x
  rw [← ratio_eq, div_lt_iff₀ den]
  exact_mod_cast Iff.rfl

theorem magnitudeGe_iff (a b : Binary64) : a.magnitudeGe b = true ↔ |b.toRat| ≤ |a.toRat| := by
  have first : (0 : ℚ) < a.ratio.2 := by exact_mod_cast ratio_den_pos a
  have second : (0 : ℚ) < b.ratio.2 := by exact_mod_cast ratio_den_pos b
  rw [← ratio_eq, ← ratio_eq, div_le_div_iff₀ second first, magnitudeGe, decide_eq_true_eq]
  exact_mod_cast Iff.rfl

/-- Below one bit of the mantissa there is no place for more than 53 bits above the point. -/
theorem whole_or_small (x : Binary64) : x.ratio.2 = 1 ∨ x.ratio.1 < twoTo 53 := by
  cases x with
  | finite negative m e fits =>
    simp only [ratio, scaleRatio]
    split
    · exact .inl rfl
    · exact .inr fits.1
  | infinite negative => exact .inl rfl
  | nan => exact .inl rfl

theorem roundHalfEven_whole (n : Nat) : roundHalfEven n 1 = n := by
  simp [roundHalfEven, Nat.mod_one]

theorem roundHalfEven_le (num den : Nat) : roundHalfEven num den ≤ num / den + 1 := by
  simp only [roundHalfEven]
  split
  · exact le_rfl
  · exact Nat.le_succ _

end TaxLedger.Binary64
