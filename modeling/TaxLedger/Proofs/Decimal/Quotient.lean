import TaxLedger.Proofs.Coin.Whole
import TaxLedger.Proofs.Decimal.Value

/-!
Division to a hundred digits. Long division loses nothing of its dividend (`longDivide_equation`), so that
a quotient of integers is the exact one with its last digit rounded half up (`divideNat_rounds`). Its
integer part is the exact one, or the next integer where the exact one has more digits than are kept
(`withScale_divide`).
-/

namespace TaxLedger.Decimal

/-! ### Digits -/

theorem digitCount_le_iff {n k : Nat} (positive : 0 < k) : digitCount n ≤ k ↔ n < 10 ^ k := by
  have digits : digitCount n = (Nat.toDigits 10 n).length := by
    rw [digitCount, Nat.toString_eq_repr, String.length, Nat.toList_repr]
  rw [digits]
  exact Nat.length_toDigits_le_iff (by decide) positive

/-! ### Scaling -/

theorem scaleUp_eq (den fuel num : Nat) :
    (scaleUp den fuel num).1 = num * 10 ^ (scaleUp den fuel num).2 := by
  induction fuel generalizing num with
  | zero => simp [scaleUp]
  | succ fuel ih =>
    rw [scaleUp]
    split
    · dsimp only
      rw [ih, Nat.pow_succ']
      ring
    · simp

/-- The last step starts below the divisor. -/
theorem scaleUp_lt {den fuel num : Nat} (scaled : 0 < (scaleUp den fuel num).2) :
    (scaleUp den fuel num).1 < 10 * den := by
  induction fuel generalizing num with
  | zero => exact absurd scaled (Nat.lt_irrefl 0)
  | succ fuel ih =>
    rw [scaleUp] at scaled ⊢
    split
    · rename_i small
      dsimp only
      by_cases more : 0 < (scaleUp den fuel (num * 10)).2
      · exact ih more
      · have last : (scaleUp den fuel (num * 10)).2 = 0 := Nat.eq_zero_of_not_pos more
        rw [scaleUp_eq, last]
        omega
    · rename_i large
      rw [if_neg large] at scaled
      exact absurd scaled (Nat.lt_irrefl 0)

/-! ### Long division -/

theorem longDivide_equation (den places quotient remainder : Nat) :
    (longDivide den places quotient remainder).1 * den +
        (longDivide den places quotient remainder).2.1 =
      (quotient * den + remainder) * 10 ^ (longDivide den places quotient remainder).2.2 := by
  induction places generalizing quotient remainder with
  | zero => simp [longDivide]
  | succ places ih =>
    rw [longDivide]
    split
    · rename_i even
      simp [even]
    · dsimp only
      have digit : remainder * 10 / den * den + remainder * 10 % den = remainder * 10 := by
        rw [Nat.mul_comm]
        exact Nat.div_add_mod (remainder * 10) den
      have step : (quotient * 10 + remainder * 10 / den) * den + remainder * 10 % den =
          (quotient * den + remainder) * 10 := by
        rw [Nat.add_mul, Nat.add_assoc, digit]
        ring
      rw [ih, step, Nat.pow_succ']
      ring

theorem longDivide_remainder {den places quotient remainder : Nat} (below : remainder < den) :
    (longDivide den places quotient remainder).2.1 < den := by
  induction places generalizing quotient remainder with
  | zero => exact below
  | succ places ih =>
    rw [longDivide]
    split
    · exact Nat.zero_lt_of_lt below
    · exact ih (Nat.mod_lt _ (Nat.zero_lt_of_lt below))

theorem longDivide_written (den places quotient remainder : Nat) :
    (longDivide den places quotient remainder).2.1 = 0 ∨
      (longDivide den places quotient remainder).2.2 = places := by
  induction places generalizing quotient remainder with
  | zero => exact .inr rfl
  | succ places ih =>
    rw [longDivide]
    split
    · exact .inl rfl
    · rcases ih (quotient * 10 + remainder * 10 / den) (remainder * 10 % den) with even | written
      · exact .inl even
      · exact .inr (congrArg (· + 1) written)

/-! ### Quotients -/

/-- What is left of the dividend decides the last digit. A quotient that does not come out even has
`precision` digits. -/
theorem divideNat_rounds {num den : Nat} (some : 0 < num) (divisor : 0 < den) :
    ∃ q r, num * 10 ^ (divideNat num den).2 = q * den + r ∧ r < den ∧
      (divideNat num den).1 = (if den ≤ 2 * r then q + 1 else q) ∧
      (r = 0 ∨ precision ≤ digitCount (num / den) + (divideNat num den).2) := by
  have scaled := scaleUp_eq den (digitCount den) num
  have least := @scaleUp_lt den (digitCount den) num
  rw [divideNat]
  generalize scaleUp den (digitCount den) num = up at scaled least ⊢
  obtain ⟨top, shift⟩ := up
  dsimp only at scaled least ⊢
  have equation := longDivide_equation den (precision - digitCount (top / den)) (top / den) (top % den)
  have below : (longDivide den (precision - digitCount (top / den)) (top / den) (top % den)).2.1 < den :=
    longDivide_remainder (Nat.mod_lt _ divisor)
  have written := longDivide_written den (precision - digitCount (top / den)) (top / den) (top % den)
  generalize longDivide den (precision - digitCount (top / den)) (top / den) (top % den) = out
    at equation below written ⊢
  obtain ⟨q, r, places⟩ := out
  dsimp only at equation below written ⊢
  refine ⟨q, r, ?_, below, ?_, ?_⟩
  · rw [equation, Nat.mul_comm (top / den), Nat.div_add_mod, scaled, Nat.pow_add, Nat.mul_assoc]
  · have half : r * 10 / den ≥ 5 ↔ den ≤ 2 * r := by
      rw [ge_iff_le, Nat.le_div_iff_mul_le divisor]
      omega
    simp only [half]
  · rcases written with even | full
    · exact .inl even
    · right
      by_cases unscaled : shift = 0
      · subst unscaled
        rw [Nat.pow_zero, Nat.mul_one] at scaled
        subst scaled
        omega
      · -- The first digit of a dividend that was scaled up is all that its quotient has.
        have digit : digitCount (top / den) ≤ 1 := by
          rw [digitCount_le_iff Nat.one_pos, Nat.pow_one, Nat.div_lt_iff_lt_mul divisor]
          exact least (Nat.pos_of_ne_zero unscaled)
        omega

/-- Rounding the last digit reaches the next integer only if a half of the divisor has more digits
than there are places. -/
theorem floor_or_next {num den places q r : Nat} (whole : num * 10 ^ places = q * den + r)
    (below : r < den) :
    (if den ≤ 2 * r then q + 1 else q) / 10 ^ places = num / den ∨
      (if den ≤ 2 * r then q + 1 else q) / 10 ^ places = num / den + 1 ∧
        den ≤ 2 * r ∧ 2 * 10 ^ places ≤ den := by
  have divisor : 0 < den := Nat.zero_lt_of_lt below
  have power : 0 < 10 ^ places := Nat.pow_pos (by decide)
  have exact : q / 10 ^ places = num / den := by
    have digits : num * 10 ^ places / den = q := by
      rw [whole, Nat.add_comm, Nat.add_mul_div_right _ _ divisor, Nat.div_eq_of_lt below, Nat.zero_add]
    rw [← digits, Nat.div_div_eq_div_mul, Nat.mul_div_mul_right _ _ power]
  by_cases up : den ≤ 2 * r
  · rw [if_pos up, Nat.succ_div, exact]
    by_cases carried : 10 ^ places ∣ q + 1
    · right
      refine ⟨by rw [if_pos carried], up, ?_⟩
      -- What is missing to the next integer is a multiple of the last digit.
      have missing : (q + 1) * den = num * 10 ^ places + (den - r) := by
        rw [whole, Nat.add_mul]
        omega
      have multiple : 10 ^ places ∣ den - r := by
        have both : 10 ^ places ∣ num * 10 ^ places + (den - r) :=
          missing ▸ Dvd.dvd.mul_right carried den
        exact (Nat.dvd_add_right (Nat.dvd_mul_left _ _)).mp both
      have least := Nat.le_of_dvd (by omega) multiple
      omega
    · left
      rw [if_neg carried, Nat.add_zero]
  · left
    rw [if_neg up, exact]

theorem divideNat_floor {num den : Nat} (some : 0 < num) (divisor : 0 < den) (word : den < 2 ^ 64) :
    (divideNat num den).1 / 10 ^ (divideNat num den).2 = num / den ∨
      (divideNat num den).1 / 10 ^ (divideNat num den).2 = num / den + 1 ∧ 10 ^ 81 ≤ num / den := by
  obtain ⟨q, r, whole, below, rounded, digits⟩ := divideNat_rounds some divisor
  rw [rounded]
  rcases floor_or_next whole below with exact | ⟨next, up, room⟩
  · exact .inl exact
  · refine .inr ⟨next, ?_⟩
    have few : (divideNat num den).2 < 19 := by
      rw [← Nat.pow_lt_pow_iff_right (by decide : 1 < 10)]
      omega
    have many : ¬digitCount (num / den) ≤ 81 := by
      rcases digits with even | full
      · omega
      · rw [precision] at full
        omega
    rw [digitCount_le_iff (by decide)] at many
    exact Nat.le_of_not_lt many

theorem withScale_natural (coefficient places : Nat) :
    withScale ⟨coefficient, places⟩ 0 = ofInt (coefficient / 10 ^ places : Nat) := by
  have value : toRat ⟨coefficient, places⟩ = (coefficient : ℤ) / (10 ^ places : ℕ) := by
    rw [toRat, zpow_neg, zpow_natCast, Nat.cast_pow]
    rfl
  rw [withScale_zero, value, towardZero_div _ (Nat.pow_pos (by decide)),
    Int.tdiv_eq_ediv_of_nonneg (Int.natCast_nonneg coefficient), Int.natCast_ediv]

theorem divide_natural {num den : Nat} (some : num ≠ 0) (divided : den ≠ 1) (apart : num ≠ den) :
    divide (ofInt num) (ofInt den) = ⟨(divideNat num den).1, (divideNat num den).2⟩ := by
  have unit : ((den : Int) = tenTo (0 : Int).toNat) ↔ den = 1 := by
    rw [show tenTo (0 : Int).toNat = 1 from rfl]
    omega
  have signs : ((num : Int) < 0) = ((den : Int) < 0) := propext (by omega)
  rw [divide]
  simp only [ofInt, unit, divided, Int.natCast_eq_zero, some, Int.natCast_inj, apart, signs,
    Int.natAbs_natCast, Int.sub_self, Int.zero_add, decide_false, Bool.false_and, Bool.or_self,
    Bool.false_eq_true, if_false, if_true]

/-- The integer part of a quotient by a divisor of 64 bits is the exact one. Only one of eighty-two
digits or more may be rounded up to the next integer. -/
theorem withScale_divide {num den : Nat} (divisor : 0 < den) (word : den < 2 ^ 64) :
    (divide (ofInt num) (ofInt den)).withScale 0 = ofInt (num / den : Nat) ∨
      (divide (ofInt num) (ofInt den)).withScale 0 = ofInt (num / den + 1 : Nat) ∧
        10 ^ 81 ≤ num / den := by
  by_cases none : num = 0
  · left
    subst none
    rw [show divide (ofInt (0 : Nat)) (ofInt den) = ofInt (0 : Nat) from rfl, withScale_ofInt,
      Nat.zero_div]
  by_cases one : den = 1
  · left
    subst one
    have kept : divide (ofInt num) (ofInt (1 : Nat)) = ofInt num := by simp [divide, ofInt, tenTo]
    rw [kept, withScale_ofInt, Nat.div_one]
  by_cases same : num = den
  · left
    subst same
    have whole : divide (ofInt num) (ofInt num) = ofInt (1 : Nat) := by
      simp [divide, ofInt, none, one, tenTo]
    rw [whole, withScale_ofInt, Nat.div_self divisor]
  · rw [divide_natural none one same, withScale_natural]
    rcases divideNat_floor (Nat.pos_of_ne_zero none) divisor word with exact | ⟨next, large⟩
    · exact .inl (by rw [exact])
    · exact .inr ⟨by rw [next], large⟩

end TaxLedger.Decimal
