import Mathlib.Tactic.Linarith
import TaxLedger.Proofs.Binary64

/-!
Rounding keeps order. What is rounded to a whole number stays in the order of the numbers
(`roundHalfEven_mono`), and a whole number that is rounded to double precision goes beyond no number of
double precision that it does not exceed (`ofInt_le_of_le`).
-/

namespace TaxLedger.Binary64

/-! ### Whole numbers -/

theorem roundHalfEven_le_of_le {num den k : Nat} (positive : 0 < den) (below : num ≤ k * den) :
    roundHalfEven num den ≤ k := by
  have floor : num / den ≤ k := by
    rw [Nat.mul_comm] at below
    exact Nat.div_le_of_le_mul below
  simp only [roundHalfEven]
  split
  · rename_i up
    -- There is a remainder, so that the floor is not `k` itself.
    have rest : 0 < num % den := by
      simp only [Bool.or_eq_true, decide_eq_true_eq, Bool.and_eq_true, beq_iff_eq] at up
      omega
    have parts := Nat.div_add_mod num den
    have strict : num / den * den < k * den := by
      rw [Nat.mul_comm (num / den)]
      omega
    exact Nat.lt_of_mul_lt_mul_right strict
  · exact floor

theorem roundHalfEven_mono {num den num' den' : Nat} (positive : 0 < den) (positive' : 0 < den')
    (le : num * den' ≤ num' * den) : roundHalfEven num den ≤ roundHalfEven num' den' := by
  have parts := Nat.div_add_mod num den
  have parts' := Nat.div_add_mod num' den'
  have bound' := Nat.mod_lt num' positive'
  simp only [roundHalfEven]
  generalize num / den = q at *
  generalize num % den = r at *
  generalize num' / den' = q' at *
  generalize num' % den' = r' at *
  subst parts parts'
  rcases Nat.lt_trichotomy q q' with lower | rfl | higher
  · split <;> split <;> omega
  · -- The remainders decide, and they are in the order of the numbers.
    have rests : r * den' ≤ r' * den := by nlinarith
    by_cases up : (decide (2 * r > den) || (2 * r == den && q % 2 == 1)) = true
    · have up' : (decide (2 * r' > den') || (2 * r' == den' && q % 2 == 1)) = true := by
        simp only [Bool.or_eq_true, decide_eq_true_eq, Bool.and_eq_true, beq_iff_eq] at up ⊢
        rcases up with above | ⟨half, odd⟩
        · left
          nlinarith
        · rcases Nat.lt_trichotomy (2 * r') den' with below | same | above
          · nlinarith
          · exact .inr ⟨same, odd⟩
          · exact .inl above
      rw [if_pos up, if_pos up']
    · rw [if_neg up]
      split <;> omega
  · have step : (q' + 1) * (den * den') ≤ q * (den * den') := Nat.mul_le_mul_right _ higher
    nlinarith

/-! ### Double precision -/

theorem toRat_of_fits (m : Nat) (e : Int) :
    (if fits : Fits m e then finite false m e fits else infinite false).toRat = 0 ∨
      (if fits : Fits m e then finite false m e fits else infinite false).toRat = m * (2 : ℚ) ^ e := by
  split
  · right
    simp [toRat]
  · exact .inl rfl

/-- A whole number is rounded in the unit of the last of 53 places, unless it is too large for any. -/
theorem toRat_ofRatio_whole {n : Nat} (filled : n ≠ 0) :
    ∃ e : Int, e ≤ (n.log2 : Int) - 52 ∧
      ((ofRatio false n 1).toRat = 0 ∨
        (ofRatio false n 1).toRat =
          roundHalfEven (scaleRatio n 1 (-e)).1 (scaleRatio n 1 (-e)).2 * (2 : ℚ) ^ e) := by
  have one : (1 : Nat).log2 = 0 := by decide
  let low : Int := max ((n.log2 : Int) - (1 : Nat).log2 - 53) (-1074)
  refine ⟨if (scaleRatio n 1 (-low)).1 / (scaleRatio n 1 (-low)).2 ≥ twoTo 53 then low + 1 else low,
    ?_, ?_⟩
  · split <;> omega
  · simp only [ofRatio, if_neg filled]
    generalize (if (scaleRatio n 1 (-low)).1 / (scaleRatio n 1 (-low)).2 ≥ twoTo 53 then low + 1
      else low) = e
    generalize roundHalfEven (scaleRatio n 1 (-e)).1 (scaleRatio n 1 (-e)).2 = m
    by_cases full : m = twoTo 53
    · -- The carry moves one place into the exponent.
      have carried : (m : ℚ) * 2 ^ e = (twoTo 52 : Nat) * 2 ^ (e + 1) := by
        rw [full, cast_twoTo, cast_twoTo, zpow_add_one₀ (by norm_num)]
        ring
      simp only [if_pos full, carried]
      exact toRat_of_fits _ _
    · simp only [if_neg full]
      exact toRat_of_fits _ _

/-- Rounding a whole number goes beyond no number of double precision that it does not exceed. -/
theorem ofInt_le_of_le {x : Binary64} {n : Nat} (below : (n : ℚ) ≤ |x.toRat|) :
    |(ofInt n).toRat| ≤ |x.toRat| := by
  have whole : ofInt n = ofRatio false n 1 := by
    have natural : decide ((n : Int) < 0) = false := decide_eq_false (by omega)
    rw [ofInt, natural, Int.natAbs_natCast]
  rw [whole]
  by_cases filled : n = 0
  · simp [filled, ofRatio, zero, toRat]
  obtain ⟨e, low, none | value⟩ := toRat_ofRatio_whole filled
  · simp [none]
  have some : (0 : ℚ) < n := by exact_mod_cast Nat.pos_of_ne_zero filled
  cases x with
  | infinite negative => simp [toRat] at below; omega
  | nan => simp [toRat] at below; omega
  | finite negative m ex fits =>
    have held : |(finite negative m ex fits).toRat| = m * (2 : ℚ) ^ ex := by
      rw [← ratio_eq, ratio, scaleRatio_eq]
    rw [held] at below ⊢
    -- The number has no more places than its mantissa, so that its unit is not the finer one.
    have coarser : e ≤ ex := by
      have top : (2 : ℚ) ^ (n.log2 : Int) ≤ n := by
        rw [zpow_natCast]
        exact_mod_cast Nat.log2_self_le filled
      have mantissa : (m : ℚ) < 2 ^ (53 : Int) := by
        have small := fits.1
        rw [twoTo] at small
        exact_mod_cast small
      have power : (2 : ℚ) ^ (n.log2 : Int) < 2 ^ (53 + ex) := by
        rw [zpow_add₀ (by norm_num)]
        exact lt_of_le_of_lt (top.trans below) (mul_lt_mul_of_pos_right mantissa (by positivity))
      have places := (zpow_lt_zpow_iff_right₀ (by norm_num)).mp power
      omega
    obtain ⟨d, rfl⟩ : ∃ d : Nat, ex = e + d := ⟨(ex - e).toNat, by omega⟩
    have den : (0 : ℚ) < (scaleRatio n 1 (-e)).2 := by exact_mod_cast scaleRatio_den_pos n (-e)
    have ratio := scaleRatio_eq n (-e)
    rw [div_eq_iff den.ne'] at ratio
    have bounded : (scaleRatio n 1 (-e)).1 ≤ m * 2 ^ d * (scaleRatio n 1 (-e)).2 := by
      have scaled : (n : ℚ) * 2 ^ (-e) ≤ m * 2 ^ d := by
        rw [zpow_neg, ← div_eq_mul_inv, div_le_iff₀ (by positivity), mul_assoc, mul_comm (2 ^ d),
          ← zpow_natCast, ← zpow_add₀ (by norm_num)]
        exact below
      have wide : ((scaleRatio n 1 (-e)).1 : ℚ) ≤ m * 2 ^ d * (scaleRatio n 1 (-e)).2 := by
        rw [ratio]
        exact mul_le_mul_of_nonneg_right scaled den.le
      exact_mod_cast wide
    have rounded := roundHalfEven_le_of_le (scaleRatio_den_pos n (-e)) bounded
    have rounded' : (roundHalfEven (scaleRatio n 1 (-e)).1 (scaleRatio n 1 (-e)).2 : ℚ) ≤ m * 2 ^ d := by
      exact_mod_cast rounded
    rw [value, abs_of_nonneg (by positivity)]
    calc (roundHalfEven (scaleRatio n 1 (-e)).1 (scaleRatio n 1 (-e)).2 : ℚ) * 2 ^ e
        ≤ m * 2 ^ d * 2 ^ e := mul_le_mul_of_nonneg_right rounded' (by positivity)
      _ = m * 2 ^ (e + d) := by
        rw [zpow_add₀ (by norm_num), zpow_natCast]
        ring

end TaxLedger.Binary64
