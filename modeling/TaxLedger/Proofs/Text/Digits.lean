import TaxLedger.Text.Integer

/-!
Integers in decimal and back. What is written in print is read as the integer that it is
(`intOfChars?_toString`), so that an integer in range survives its text.
-/

namespace TaxLedger.Text

theorem isDigit_eq (c : Char) : isDigit c = c.isDigit := by
  rw [isDigit, Char.isDigit]
  rfl

theorem isDigit_of_mem_toDigits {n : Nat} {c : Char} (member : c ∈ Nat.toDigits 10 n) :
    isDigit c = true := by
  have digit := Nat.isDigit_of_mem_toDigits (by decide) (by decide) member
  rw [Char.isDigit, Bool.and_eq_true, decide_eq_true_eq, decide_eq_true_eq] at digit
  rw [isDigit, Bool.and_eq_true, decide_eq_true_eq, decide_eq_true_eq]
  exact digit

theorem ofDigitsFrom_toDigits (n : Nat) : ofDigitsFrom 0 (Nat.toDigits 10 n) = n :=
  Nat.ofDigitChars_ten_toDigits

theorem natOfChars?_toDigits (n : Nat) : natOfChars? (Nat.toDigits 10 n) = some n := by
  have digits : (Nat.toDigits 10 n).all isDigit = true :=
    List.all_eq_true.mpr fun _ member => isDigit_of_mem_toDigits member
  have filled : (Nat.toDigits 10 n).isEmpty = false :=
    List.isEmpty_eq_false_iff.mpr Nat.toDigits_ne_nil
  rw [natOfChars?, digits, filled, ofDigitsFrom_toDigits]
  rfl

theorem intOfChars?_toDigits (n : Nat) : intOfChars? (Nat.toDigits 10 n) = some (n : Int) := by
  have first : ∀ c, (Nat.toDigits 10 n).head? = some c → isDigit c = true := fun c head =>
    isDigit_of_mem_toDigits (List.mem_of_head? head)
  -- A digit is no sign, so that the text is read as a natural number.
  rw [intOfChars?]
  · rw [natOfChars?_toDigits]
    rfl
  · intro rest signed
    have sign := first '+' (by rw [signed]; rfl)
    revert sign
    decide
  · intro rest signed
    have sign := first '-' (by rw [signed]; rfl)
    revert sign
    decide

theorem toList_toString {n : Int} (natural : 0 ≤ n) :
    (toString n).toList = Nat.toDigits 10 n.toNat := by
  obtain ⟨n, rfl⟩ := Int.eq_ofNat_of_zero_le natural
  exact Nat.toList_repr

/-- The text of an integer is read as that integer. -/
theorem intOfChars?_toString (n : Int) : intOfChars? (toString n).toList = some n := by
  cases n with
  | ofNat n =>
    change intOfChars? n.repr.toList = _
    rw [Nat.toList_repr, intOfChars?_toDigits]
    rfl
  | negSucc n =>
    change intOfChars? ("-" ++ (n + 1).repr).toList = _
    rw [String.toList_append, Nat.toList_repr]
    change (natOfChars? (Nat.toDigits 10 (n + 1))).map (fun n => -(n : Int)) = _
    rw [natOfChars?_toDigits]
    rfl

theorem toString_inj {n n' : Int} (same : toString n = toString n') : n = n' := by
  have read := intOfChars?_toString n
  rw [same, intOfChars?_toString] at read
  exact (Option.some.inj read).symm

theorem int64?_toString {n : Int} (low : int64Min ≤ n) (high : n ≤ int64Max) :
    int64? (toString n) = some n := by
  rw [int64?, int?, intOfChars?_toString]
  simp [low, high]

end TaxLedger.Text
