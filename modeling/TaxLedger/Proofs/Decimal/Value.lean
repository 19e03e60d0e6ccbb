import Mathlib.Algebra.Field.Rat
import Mathlib.Algebra.Order.Ring.Rat
import Mathlib.Data.Rat.Floor
import Mathlib.Tactic.FieldSimp
import Mathlib.Tactic.Ring
import TaxLedger.Decimal

/-!
The numbers that decimals stand for. Dropping the zeros at the end of a coefficient keeps the number
(`toRat_normalized`) and drops all of them (`isNormal_normalized`); where there are none, nothing changes.
Without its digits behind the point a decimal is the next integer on the side of zero (`withScale_zero`).
-/

namespace TaxLedger.Decimal

def toRat (d : Decimal) : ℚ := d.coefficient * (10 : ℚ) ^ (-d.scale)

/-- No zero at the end of the digits, unless the number is zero. -/
def IsNormal (d : Decimal) : Prop := d = ⟨0, 0⟩ ∨ d.coefficient % 10 ≠ 0

@[simp] theorem toRat_ofInt (n : ℤ) : (ofInt n).toRat = n := by
  rw [toRat, ofInt, neg_zero, zpow_zero, mul_one]

theorem lt_tenTo_digitCount (n : Nat) : n < 10 ^ digitCount n := by
  have digits : (Nat.toDigits 10 n).length = digitCount n := by
    rw [digitCount, Nat.toString_eq_repr, String.length, Nat.toList_repr]
  rw [← digits]
  exact (Nat.length_toDigits_le_iff (by decide) Nat.length_toDigits_pos).mp le_rfl

theorem toRat_dropZero {d : Decimal} (trailing : d.coefficient % 10 = 0) :
    toRat ⟨d.coefficient / 10, d.scale - 1⟩ = d.toRat := by
  obtain ⟨c, tens⟩ := Int.dvd_of_emod_eq_zero trailing
  have power : (10 : ℚ) ^ (-(d.scale - 1)) = 10 ^ (-d.scale) * 10 := by
    rw [neg_sub, sub_eq_add_neg, add_comm, zpow_add_one₀ (by norm_num)]
  rw [toRat, toRat, tens, Int.mul_ediv_cancel_left c (by decide), power]
  push_cast
  ring

theorem toRat_stripZeros (fuel : Nat) (d : Decimal) : (stripZeros fuel d).toRat = d.toRat := by
  induction fuel generalizing d with
  | zero => rfl
  | succ fuel ih =>
    rw [stripZeros]
    split
    · rename_i trailing
      rw [ih, toRat_dropZero trailing]
    · rfl

/-- As many steps as there are digits leave no zero at the end. -/
theorem stripZeros_coefficient {fuel : Nat} {d : Decimal} (nonzero : d.coefficient ≠ 0)
    (enough : d.coefficient.natAbs < 10 ^ fuel) : (stripZeros fuel d).coefficient % 10 ≠ 0 := by
  induction fuel generalizing d with
  | zero => omega
  | succ fuel ih =>
    rw [stripZeros]
    split
    · rename_i trailing
      have shorter : (d.coefficient / 10).natAbs < 10 ^ fuel := by
        rw [Nat.pow_succ] at enough
        omega
      exact ih (show d.coefficient / 10 ≠ 0 by omega) shorter
    · assumption

theorem toRat_normalized (d : Decimal) : d.normalized.toRat = d.toRat := by
  rw [normalized]
  split
  · rename_i zero
    simp [toRat, zero]
  · exact toRat_stripZeros _ d

theorem isNormal_normalized (d : Decimal) : d.normalized.IsNormal := by
  rw [normalized]
  split
  · exact .inl rfl
  · exact .inr (stripZeros_coefficient ‹_› (lt_tenTo_digitCount _))

theorem normalized_of_isNormal {d : Decimal} (normal : d.IsNormal) : d.normalized = d := by
  rcases normal with rfl | last
  · rfl
  · have nonzero : d.coefficient ≠ 0 := fun zero => last (by rw [zero]; rfl)
    rw [normalized, if_neg nonzero]
    cases digitCount d.coefficient.natAbs with
    | zero => rfl
    | succ fuel => rw [stripZeros, if_neg last]

/-! ### Integer part -/

def towardZero (q : ℚ) : ℤ := if 0 ≤ q then ⌊q⌋ else ⌈q⌉

theorem towardZero_intCast (n : ℤ) : towardZero n = n := by
  rw [towardZero, Int.floor_intCast, Int.ceil_intCast, ite_self]

theorem towardZero_natCast_add (n : ℕ) {q : ℚ} (natural : 0 ≤ q) (below : q < 1) :
    towardZero (n + q) = n := by
  have fraction : ⌊q⌋ = 0 := Int.floor_eq_zero_iff.mpr ⟨natural, below⟩
  rw [towardZero, if_pos (add_nonneg (Nat.cast_nonneg n) natural), Int.floor_natCast_add, fraction,
    add_zero]

theorem towardZero_nonneg {q : ℚ} (natural : 0 ≤ q) : 0 ≤ towardZero q := by
  rw [towardZero, if_pos natural]
  exact Int.floor_nonneg.mpr natural

theorem towardZero_div (n : ℤ) {m : ℕ} (positive : 0 < m) : towardZero (n / m) = n.tdiv m := by
  have divisor : (0 : ℚ) < m := Nat.cast_pos.mpr positive
  rw [towardZero]
  split
  · rename_i nonnegative
    have natural : 0 ≤ n := by
      by_contra below
      exact absurd nonnegative
        (not_le.mpr (div_neg_of_neg_of_pos (Int.cast_lt_zero.mpr (Int.not_le.mp below)) divisor))
    rw [Rat.floor_intCast_div_natCast, Int.tdiv_eq_ediv_of_nonneg natural]
  · rename_i negative
    have below : n < 0 := by
      by_contra natural
      exact negative (div_nonneg (Int.cast_nonneg_iff.mpr (Int.not_lt.mp natural)) divisor.le)
    rw [Rat.ceil_intCast_div_natCast, ← Int.tdiv_eq_ediv_of_nonneg (by omega), Int.neg_tdiv, neg_neg]

theorem withScale_zero (d : Decimal) : d.withScale 0 = ofInt (towardZero d.toRat) := by
  rw [withScale, ofInt]
  split
  · rename_i zero
    have none : towardZero 0 = 0 := by simpa using towardZero_intCast 0
    rw [toRat, zero, Int.cast_zero, zero_mul, none]
  split
  · rename_i whole
    obtain ⟨k, zeros⟩ := Int.eq_ofNat_of_zero_le (show 0 ≤ 0 - d.scale by omega)
    have value : d.toRat = (d.coefficient * 10 ^ k : ℤ) := by
      rw [toRat, ← zero_sub, zeros, zpow_natCast]
      push_cast
      rfl
    rw [value, towardZero_intCast, zeros]
    rfl
  · rename_i cut
    obtain ⟨k, places⟩ := Int.eq_ofNat_of_zero_le (show 0 ≤ d.scale - 0 by omega)
    have value : d.toRat = d.coefficient / (10 ^ k : ℕ) := by
      rw [toRat, ← Int.sub_zero d.scale, places, zpow_neg, zpow_natCast, Nat.cast_pow]
      rfl
    rw [value, towardZero_div _ (Nat.pow_pos (by decide)), places]
    rfl

end TaxLedger.Decimal
