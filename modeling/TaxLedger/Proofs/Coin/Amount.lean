import TaxLedger.Proofs.Coin.Whole
import TaxLedger.Proofs.Decimal.Literal
import TaxLedger.Proofs.Text.Blank

/-!
Amounts in text. An amount is the number that is written between blanks, cut toward zero and never
rounded, or nothing for blanks alone; all else is refused (`parseAmount_exact`). The sign of a number
stands at its front with one exception: it may follow the point (`sign_behind_point`).
-/

namespace TaxLedger.Coin

open Decimal Text

theorem parseAmount_blank {s : String} (blank : Blank s.toList) : parseAmount s = .ok 0 := by
  have none : trim s = "" := by rw [trim, trimChars_eq_nil_iff.mpr blank]
  rw [parseAmount, none]
  rfl

theorem trim_ne_empty {s : String} (filled : ¬Blank s.toList) : trim s ≠ "" := by
  intro none
  refine filled (trimChars_eq_nil_iff.mp ?_)
  have chars := congrArg String.toList none
  rwa [trim, String.toList_ofList] at chars

theorem parseAmount_filled {s : String} (filled : ¬Blank s.toList) :
    parseAmount s = match ofChars? (trimChars s.toList) with
      | some d => .ok (d.withScale 0)
      | none => .error (.invalidCoin (trim s)) := by
  have chars : ofString? (trim s) = ofChars? (trimChars s.toList) := by
    rw [ofString?, trim, String.toList_ofList]
  rw [← chars]
  cases read : ofString? (trim s) with
  | none => simp only [parseAmount, if_neg (trim_ne_empty filled), read]
  | some d => simp only [parseAmount, if_neg (trim_ne_empty filled), read]

theorem filled_of_written {s : String} {q : ℚ} (written : Written Form (trimChars s.toList) q) :
    ¬Blank s.toList := by
  intro blank
  obtain ⟨d, read, _⟩ := ofChars?_iff.mpr written
  rw [trimChars_eq_nil_iff.mpr blank] at read
  cases read

theorem parseAmount_written {s : String} {q : ℚ} (written : Written Form (trimChars s.toList) q) :
    parseAmount s = .ok (ofInt (towardZero q)) := by
  obtain ⟨d, read, rfl⟩ := ofChars?_iff.mpr written
  rw [parseAmount_filled (filled_of_written written), read, ← withScale_zero]

theorem written_of_parseAmount {s : String} {amount : Decimal} (filled : ¬Blank s.toList)
    (success : parseAmount s = .ok amount) :
    ∃ q, Written Form (trimChars s.toList) q ∧ amount = ofInt (towardZero q) := by
  rw [parseAmount_filled filled] at success
  cases read : ofChars? (trimChars s.toList) with
  | none =>
    rw [read] at success
    cases success
  | some d =>
    rw [read] at success
    cases success
    exact ⟨d.toRat, ofChars?_iff.mp ⟨d, read, rfl⟩, withScale_zero d⟩

/-! ### Integers in print -/

theorem isDigit_toDigits (k : ℕ) : ∀ c ∈ Nat.toDigits 10 k, c.isDigit = true := by
  intro c member
  rw [← isDigit_eq]
  exact isDigit_of_mem_toDigits member

theorem numeralValue_toDigits (k : ℕ) : numeralValue (Nat.toDigits 10 k) = k := by
  rw [numeralValue, placesOf_of_digits (isDigit_toDigits k), ← ofDigitsFrom_eq, ofDigitsFrom_toDigits]

theorem toList_toString_sign (n : ℤ) : ∃ sign : Sign,
    (toString n).toList = sign.text ++ Nat.toDigits 10 n.natAbs ∧ sign.factor * n.natAbs = n := by
  cases n with
  | ofNat k => exact ⟨.absent, Nat.toList_repr, Int.one_mul _⟩
  | negSucc k =>
    refine ⟨.minus, ?_, Int.neg_one_mul _⟩
    change ("-" ++ (k + 1).repr).toList = _
    rw [String.toList_append, Nat.toList_repr]
    rfl

theorem written_toString (n : ℤ) : Written Form (toString n).toList n := by
  obtain ⟨sign, text, value⟩ := toList_toString_sign n
  have digits := isNumeral_of_digits Nat.toDigits_ne_nil (isDigit_toDigits n.natAbs)
  have number : (n : ℚ) = sign.factor * numeralValue (Nat.toDigits 10 n.natAbs) * 10 ^ (0 : ℤ) := by
    rw [numeralValue_toDigits, zpow_zero, mul_one, ← Int.cast_natCast, ← Int.cast_mul, value]
  rw [text]
  exact ⟨_, [], _, 0, 0, (List.append_nil _).symm, .inl (.whole sign digits), .absent, by decide,
    by decide, by decide, by decide, number⟩

theorem trimChars_toString (n : ℤ) : trimChars (toString n).toList = (toString n).toList := by
  obtain ⟨sign, text, _⟩ := toList_toString_sign n
  have signs : ∀ c ∈ sign.text, isBlank c = false :=
    Sign.forall_text (P := fun c => isBlank c = false) rfl rfl sign
  have none : ∀ c ∈ (toString n).toList, isBlank c = false := by
    rw [text]
    intro c member
    rcases List.mem_append.mp member with before | digit
    · exact signs c before
    · exact isBlank_of_isDigit (isDigit_toDigits _ c digit)
  exact trimChars_of_trimmed (trimmed_of_forall none)

theorem parseAmount_toString (n : ℤ) : parseAmount (toString n) = .ok (ofInt n) := by
  have written := written_toString n
  rw [← trimChars_toString] at written
  rw [parseAmount_written written, towardZero_intCast]

/-! ### Amounts -/

/-- An amount is the exact number cut toward zero, whatever the number of its digits and its exponent.
What is printed of it is read as the same amount. -/
theorem parseAmount_exact (s : String) :
    (Blank s.toList → parseAmount s = .ok 0) ∧
      (∀ q, Written Form (trimChars s.toList) q → parseAmount s = .ok (towardZero q)) ∧
      (¬Blank s.toList → (¬∃ q, Written Form (trimChars s.toList) q) →
        parseAmount s = .error (.invalidCoin (trim s))) ∧
      ∀ amount, parseAmount s = .ok amount → parseAmount amount.render = .ok amount := by
  refine ⟨parseAmount_blank, fun q written => parseAmount_written written, ?_, ?_⟩
  · intro filled unwritten
    cases result : parseAmount s with
    | ok n =>
      obtain ⟨q, written, _⟩ := written_of_parseAmount filled result
      exact absurd ⟨q, written⟩ unwritten
    | error e =>
      rw [parseAmount_filled filled] at result
      split at result
      · cases result
      · exact result.symm
  · intro amount success
    have whole := isWhole_of_parseAmount success
    rw [whole.render, parseAmount_toString, ← whole.eq_ofInt]

theorem parseAmount_exact_of_scientific :
    (Blank "\t\u3000".toList ∧ parseAmount "\t\u3000" = .ok 0) ∧
      (Written Form (trimChars " -12.7_5e1\n".toList) (-255 / 2) ∧
        parseAmount " -12.7_5e1\n" = .ok (towardZero (-255 / 2)) ∧
        parseAmount (ofInt (-127)).render = .ok (ofInt (-127))) ∧
      (¬Blank " 1.2.3 ".toList ∧ (¬∃ q, Written Form (trimChars " 1.2.3 ".toList) q) ∧
        parseAmount " 1.2.3 " = .error (.invalidCoin "1.2.3")) := by
  have blank : Blank "\t\u3000".toList := by decide
  have written : Written Form (trimChars " -12.7_5e1\n".toList) (-255 / 2) := by
    have mantissa := Mantissa.pointed .minus (w := "12".toList) (f := "7_5".toList) (by decide)
    have exponent := Exponent.present (.inl rfl) .absent (by decide : ['1'] ≠ [])
      (List.forall_mem_singleton.mpr rfl)
    refine ⟨_, _, _, _, 1, ?_, .inl mantissa, exponent, by decide, by decide, by decide, by decide, ?_⟩
    · decide
    · have front : numeralValue "12".toList = 12 := by decide
      have behind : numeralValue "7_5".toList = 75 := by decide
      have places : (placesOf "7_5".toList).length = 2 := by decide
      rw [front, behind, places, Sign.factor]
      norm_num
  have filled : ¬Blank " 1.2.3 ".toList := by decide
  have unwritten : ¬∃ q, Written Form (trimChars " 1.2.3 ".toList) q := by
    rintro ⟨q, written⟩
    obtain ⟨d, read, _⟩ := ofChars?_iff.mpr written
    have refused : ofChars? (trimChars " 1.2.3 ".toList) = none := by decide
    rw [refused] at read
    cases read
  obtain ⟨_, exact, _, again⟩ := parseAmount_exact " -12.7_5e1\n"
  have cut : ofInt (towardZero (-255 / 2)) = ofInt (-127) := by decide +kernel
  exact ⟨⟨blank, (parseAmount_exact _).1 blank⟩,
    ⟨written, exact _ written, again _ (cut ▸ exact _ written)⟩,
    filled, unwritten, (parseAmount_exact _).2.2.1 filled unwritten⟩

/-- A point in front of the sign makes no decimal with the sign in front. It is read all the same, and the
sign takes up the first place. -/
theorem sign_behind_point :
    (¬∃ q, Written Mantissa ".-5e2".toList q) ∧ parseAmount ".-5e2" = .ok (ofInt (-5)) := by
  refine ⟨?_, by decide⟩
  rintro ⟨q, m, x, v, k, e, whole, form, _⟩
  have chars : ".-5e2".toList = ['.', '-', '5', 'e', '2'] := rfl
  rw [chars] at whole
  cases form with
  | @whole sign w digits =>
    obtain ⟨c, rest, rfl, digit⟩ := digits.head
    have first := congrArg List.head? whole
    cases sign <;> cases first
    cases digit
  | @pointed sign w f digits =>
    cases w with
    | cons c w =>
      have first := congrArg List.head? whole
      cases sign <;> cases first
      -- The point is no digit.
      exact absurd (digits.2 '.' List.mem_cons_self) (by decide)
    | nil =>
      obtain ⟨c, rest, rfl, digit⟩ := digits.head
      have second := congrArg (fun cs => cs.tail.head?) whole
      have first := congrArg List.head? whole
      cases sign <;> cases first
      cases second
      cases digit

end TaxLedger.Coin
