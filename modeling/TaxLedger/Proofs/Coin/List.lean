import Mathlib.Tactic.Positivity
import TaxLedger.Proofs.Coin.Amount
import TaxLedger.Proofs.Result

/-!
Lists of coins in text. Between commas stand blanks, or a number and a denomination with blanks around
them; such lists and no others are read, one coin for each number, and what is printed of coins is read
as these coins (`parseList_grammar`).
-/

namespace TaxLedger.Coin

open Decimal Text

/-- Digits with at most one point among them, and the integer in front of the point. -/
inductive Number : List Char → ℕ → Prop
  | whole {w : List Char} (filled : w ≠ []) (digits : ∀ c ∈ w, c.isDigit = true) :
      Number w (numeralValue w)
  | pointed {w f : List Char} (filled : w ++ f ≠ []) (digits : ∀ c ∈ w ++ f, c.isDigit = true) :
      Number (w ++ '.' :: f) (numeralValue w)

structure DenomText (cs : List Char) : Prop where
  letter : ∃ c, cs.head? = some c ∧ c.isAlpha = true
  rest : ∀ c ∈ cs.tail, c.isAlphanum = true ∨ c ∈ ['/', ':', '.', '_', '-']
  long : 3 ≤ cs.length
  short : cs.length ≤ 128

/-- What stands between the commas of a list, where it is more than blanks. -/
def pieces (s : String) : List (List Char) :=
  (s.toList.splitOn ',').filter fun piece => piece.any fun c => !isBlank c

/-- A number and a denomination, with blanks around them and between them. -/
def Tells (piece : List Char) (c : Coin) : Prop :=
  ∃ front number between denom back n, piece = front ++ (number ++ between ++ denom) ++ back ∧
    Blank front ∧ Blank between ∧ Blank back ∧ Number number n ∧ DenomText denom ∧
    c = ⟨ofInt n, String.ofList denom⟩

/-! ### Characters -/

theorem isLetter_eq (c : Char) : isLetter c = c.isAlpha := by
  have capital : c.isUpper = (decide ('A' ≤ c) && decide (c ≤ 'Z')) := Bool.decide_and _ _
  rw [isLetter, Bool.or_comm, ← capital]
  rfl

theorem isDenomChar_iff {c : Char} :
    isDenomChar c = true ↔ c.isAlphanum = true ∨ c ∈ ['/', ':', '.', '_', '-'] := by
  simp [isDenomChar, isLetter_eq, isDigit_eq, Char.isAlphanum, or_assoc]

theorem isDenom_iff {cs : List Char} : isDenom cs = true ↔ DenomText cs := by
  cases cs with
  | nil => exact iff_of_false nofun fun denom => absurd denom.long (by decide)
  | cons first rest =>
    simp only [isDenom, isLetter_eq, Bool.and_eq_true, List.all_eq_true, isDenomChar_iff,
      decide_eq_true_eq]
    constructor
    · rintro ⟨⟨⟨letter, marks⟩, long⟩, short⟩
      exact ⟨⟨first, rfl, letter⟩, marks, Nat.succ_le_succ long, Nat.succ_le_succ short⟩
    · rintro ⟨⟨_, ⟨⟩, letter⟩, marks, long, short⟩
      exact ⟨⟨⟨letter, marks⟩, Nat.le_of_succ_le_succ long⟩, Nat.le_of_succ_le_succ short⟩

theorem isAmountChar_iff {c : Char} : isAmountChar c = true ↔ c.isDigit = true ∨ c = '.' := by
  rw [isAmountChar, isDigit_eq, Bool.or_eq_true, beq_iff_eq]

theorem isAlpha_bounds {c : Char} (letter : c.isAlpha = true) : 65 ≤ c.toNat ∧ c.toNat ≤ 122 := by
  rw [← isLetter_eq, isLetter, Bool.or_eq_true, Bool.and_eq_true, Bool.and_eq_true] at letter
  simp only [decide_eq_true_eq] at letter
  change (97 ≤ c.toNat ∧ c.toNat ≤ 122) ∨ (65 ≤ c.toNat ∧ c.toNat ≤ 90) at letter
  omega

theorem isBlank_of_denomChar {c : Char} (member : isDenomChar c = true) : isBlank c = false := by
  rcases isDenomChar_iff.mp member with letter | mark
  · rw [Char.isAlphanum, Bool.or_eq_true] at letter
    rcases letter with letter | digit
    · obtain ⟨low, high⟩ := isAlpha_bounds letter
      exact isBlank_of_visible (by omega) (by omega)
    · exact isBlank_of_isDigit digit
  · simp only [List.mem_cons, List.not_mem_nil, or_false] at mark
    rcases mark with rfl | rfl | rfl | rfl | rfl <;> rfl

theorem isBlank_of_amountChar {c : Char} (amount : isAmountChar c = true) : isBlank c = false := by
  rcases isAmountChar_iff.mp amount with digit | rfl
  · exact isBlank_of_isDigit digit
  · rfl

theorem isAmountChar_of_isBlank {c : Char} (blank : isBlank c = true) : isAmountChar c = false := by
  by_contra amount
  rw [isBlank_of_amountChar (Bool.not_eq_false _ ▸ amount)] at blank
  cases blank

theorem isAmountChar_of_isAlpha {c : Char} (letter : c.isAlpha = true) : isAmountChar c = false := by
  obtain ⟨low, _⟩ := isAlpha_bounds letter
  by_contra amount
  rcases isAmountChar_iff.mp (Bool.not_eq_false _ ▸ amount) with digit | rfl
  · rw [Char.isDigit, Bool.and_eq_true, decide_eq_true_eq, decide_eq_true_eq] at digit
    have high : c.toNat ≤ 57 := digit.2
    omega
  · exact absurd low (by decide)

/-! ### Numbers -/

theorem number_amount {cs : List Char} {n : ℕ} (number : Number cs n) :
    cs ≠ [] ∧ ∀ c ∈ cs, isAmountChar c = true := by
  cases number with
  | whole filled digits => exact ⟨filled, fun c member => isAmountChar_iff.mpr (.inl (digits c member))⟩
  | pointed filled digits =>
    refine ⟨List.append_ne_nil_of_right_ne_nil _ nofun, fun c member => ?_⟩
    rw [isAmountChar_iff]
    rcases List.mem_append.mp member with front | behind
    · exact .inl (digits c (List.mem_append_left _ front))
    · rcases List.mem_cons.mp behind with point | back
      · exact .inr point
      · exact .inl (digits c (List.mem_append_right _ back))

theorem written_of_number {cs : List Char} {n : ℕ} (number : Number cs n)
    (short : cs.length ≤ int64Max) : ∃ q, Written Form cs q ∧ towardZero q = n := by
  -- Digits alone have as many places as there are, and no exponent moves the point.
  have fits (f : List Char) (within : f.length ≤ cs.length) :
      -2 ^ 63 ≤ ((placesOf f).length : ℤ) - 0 ∧ ((placesOf f).length : ℤ) - 0 < 2 ^ 63 := by
    have kept : (placesOf f).length ≤ f.length := List.length_filter_le ..
    rw [int64Max] at short
    omega
  cases number with
  | @whole w filled digits =>
    have mantissa := Mantissa.whole .absent (isNumeral_of_digits filled digits)
    refine ⟨(numeralValue cs : ℤ), ⟨cs, [], _, 0, 0, (List.append_nil cs).symm, .inl mantissa, .absent,
      by decide, by decide, by decide, by decide, ?_⟩, towardZero_intCast _⟩
    rw [zpow_zero, mul_one, Sign.factor_absent, Int.cast_one, one_mul, Int.cast_natCast]
  | @pointed w f filled digits =>
    have mantissa := Mantissa.pointed .absent (isNumeral_of_digits filled digits)
    obtain ⟨least, most⟩ := fits f (by simp; omega)
    obtain ⟨natural, below⟩ := fraction_bounds fun c member =>
      .inl (digits c (List.mem_append_right w member))
    refine ⟨numeralValue w + numeralValue f / 10 ^ (placesOf f).length,
      ⟨_, [], _, _, 0, (List.append_nil _).symm, .inl mantissa, .absent, by decide, by decide, least, most,
        ?_⟩, towardZero_natCast_add _ natural below⟩
    rw [zpow_zero, mul_one, Sign.factor_absent, Int.cast_one, one_mul]

theorem amountChars_sign {sign : Sign} {w : List Char}
    (amount : ∀ c ∈ sign.text ++ w, isAmountChar c = true) : sign = .absent := by
  cases sign with
  | absent => rfl
  | plus => exact absurd (amount '+' List.mem_cons_self) (by decide)
  | minus => exact absurd (amount '-' List.mem_cons_self) (by decide)

theorem digits_of_amountChars {w : List Char} (digits : ∀ c ∈ w, c.isDigit = true ∨ c = '_')
    (amount : ∀ c ∈ w, isAmountChar c = true) : ∀ c ∈ w, c.isDigit = true := by
  intro c member
  refine (digits c member).resolve_right ?_
  rintro rfl
  exact absurd (amount '_' member) (by decide)

theorem number_of_written {cs : List Char} {q : ℚ} (written : Written Form cs q)
    (amount : ∀ c ∈ cs, isAmountChar c = true) : ∃ n, Number cs n := by
  obtain ⟨m, x, v, k, e, rfl, form, exponent, _⟩ := written
  cases exponent with
  | @present mark opens =>
    have among := amount mark (List.mem_append_right _ List.mem_cons_self)
    rcases opens with rfl | rfl <;> cases among
  | absent =>
    rw [List.append_nil] at amount ⊢
    rcases form with (⟨sign, numeral⟩ | ⟨sign, numeral⟩) | ⟨signed, numeral⟩
    · obtain rfl := amountChars_sign amount
      exact ⟨_, .whole numeral.filled (digits_of_amountChars numeral.2 amount)⟩
    · rw [List.append_assoc] at amount
      obtain rfl := amountChars_sign amount
      refine ⟨_, .pointed numeral.filled (digits_of_amountChars numeral.2 fun c member => amount c ?_)⟩
      rcases List.mem_append.mp member with front | behind
      · exact List.mem_append_right _ (List.mem_append_left _ front)
      · exact List.mem_append_right _ (List.mem_append_right _ (List.mem_cons_of_mem _ behind))
    · exact absurd (amountChars_sign fun c member => amount c (List.mem_cons_of_mem _ member)) signed

theorem nonneg_of_written {cs : List Char} {q : ℚ} (written : Written Form cs q)
    (amount : ∀ c ∈ cs, isAmountChar c = true) : 0 ≤ q := by
  obtain ⟨m, x, v, k, e, rfl, form, _, _, _, _, _, rfl⟩ := written
  have own : ∀ c ∈ m, isAmountChar c = true := fun c member => amount c (List.mem_append_left x member)
  refine mul_nonneg ?_ (zpow_nonneg (by norm_num) e)
  rcases form with (⟨sign, _⟩ | ⟨sign, _⟩) | ⟨signed, _⟩
  · obtain rfl := amountChars_sign own
    rw [Sign.factor_absent]
    positivity
  · rw [List.append_assoc] at own
    obtain rfl := amountChars_sign own
    rw [Sign.factor_absent]
    positivity
  · exact absurd (amountChars_sign fun c member => own c (List.mem_cons_of_mem _ member)) signed

theorem parseAmount_number_iff {cs : List Char} (filled : cs ≠ [])
    (amount : ∀ c ∈ cs, isAmountChar c = true) (short : cs.length ≤ int64Max) {n : Decimal} :
    parseAmount (String.ofList cs) = .ok n ↔ ∃ k : ℕ, Number cs k ∧ n = ofInt k := by
  have trimmed : trimChars cs = cs :=
    trimChars_of_trimmed (trimmed_of_forall fun c member => isBlank_of_amountChar (amount c member))
  have value {k : ℕ} (number : Number cs k) : parseAmount (String.ofList cs) = .ok (ofInt k) := by
    obtain ⟨q, written, integer⟩ := written_of_number number short
    rw [← integer]
    refine parseAmount_written ?_
    rwa [String.toList_ofList, trimmed]
  constructor
  · intro success
    have visible : ¬Blank (String.ofList cs).toList := by
      rw [String.toList_ofList, ← trimChars_eq_nil_iff, trimmed]
      exact filled
    obtain ⟨q, written, _⟩ := written_of_parseAmount visible success
    rw [String.toList_ofList, trimmed] at written
    obtain ⟨k, number⟩ := number_of_written written amount
    rw [value number] at success
    exact ⟨k, number, (Except.ok.inj success).symm⟩
  · rintro ⟨k, number, rfl⟩
    exact value number

/-! ### Coins -/

theorem DenomText.chars {denom : List Char} (valid : DenomText denom) :
    ∀ c ∈ denom, isDenomChar c = true := by
  obtain ⟨⟨first, head, letter⟩, rest, _⟩ := valid
  obtain ⟨others, rfl⟩ := List.head?_eq_some_iff.mp head
  intro c member
  rw [isDenomChar_iff]
  rcases List.mem_cons.mp member with rfl | behind
  · exact .inl (Bool.or_eq_true_iff.mpr (.inl letter))
  · exact rest c behind

theorem DenomText.visible {denom : List Char} (valid : DenomText denom) :
    ∀ c ∈ denom, isBlank c = false :=
  fun c member => isBlank_of_denomChar (valid.chars c member)

theorem DenomText.filled {denom : List Char} (valid : DenomText denom) : denom ≠ [] := by
  rintro rfl
  exact absurd valid.long (by decide)

/-- The number ends where the blanks or the denomination begin. -/
theorem number_ends {between denom : List Char} (gap : Blank between) (valid : DenomText denom) :
    ∀ c, (between ++ denom).head? = some c → isAmountChar c = false := by
  intro c head
  cases between with
  | nil =>
    obtain ⟨first, same, letter⟩ := valid.letter
    obtain rfl : first = c := Option.some.inj (same.symm.trans head)
    exact isAmountChar_of_isAlpha letter
  | cons blank between =>
    cases head
    exact isAmountChar_of_isBlank (gap c List.mem_cons_self)

theorem parse_padded {front number between denom back : List Char} {n : Decimal} (before : Blank front)
    (gap : Blank between) (behind : Blank back) (filled : number ≠ [])
    (amount : ∀ c ∈ number, isAmountChar c = true) (valid : DenomText denom)
    (value : parseAmount (String.ofList number) = .ok n) :
    parse (String.ofList (trimChars (front ++ (number ++ between ++ denom) ++ back))) =
      .ok ⟨n, String.ofList denom⟩ := by
  have outer : Trimmed (number ++ between ++ denom) :=
    trimmed_around filled valid.filled (fun c member => isBlank_of_amountChar (amount c member))
      valid.visible between
  have inner : trimChars (between ++ denom) = denom := by
    have padded := trimChars_padded gap .nil (trimmed_of_forall valid.visible)
    rwa [List.append_nil] at padded
  have taken : (number ++ between ++ denom).takeWhile isAmountChar = number := by
    rw [List.append_assoc, List.takeWhile_append_of_pos amount,
      takeWhile_of_head (number_ends gap valid), List.append_nil]
  have left : (number ++ between ++ denom).dropWhile isAmountChar = between ++ denom := by
    rw [List.append_assoc, List.dropWhile_append_of_pos amount,
      dropWhile_of_head (number_ends gap valid)]
  rw [trimChars_padded before behind outer, parse, trim_ofList, trimChars_of_trimmed outer,
    String.toList_ofList, taken, left, inner, isDenom_iff.mpr valid,
    List.isEmpty_eq_false_iff.mpr filled, value]
  rfl

theorem Tells.padded {front piece back : List Char} {c : Coin} (told : Tells piece c)
    (before : Blank front) (behind : Blank back) : Tells (front ++ piece ++ back) c := by
  obtain ⟨lead, number, between, denom, trail, n, rfl, leading, gap, trailing, rest⟩ := told
  refine ⟨front ++ lead, number, between, denom, trail ++ back, n, ?_, before.append leading, gap,
    trailing.append behind, rest⟩
  simp only [List.append_assoc]

/-- A coin that is read never has a negative amount, as no sign belongs to it. -/
theorem isNatural_of_parse {s : String} {c : Coin} (success : parse s = .ok c) : c.IsNatural := by
  refine ⟨isWhole_of_parse success, ?_⟩
  unfold parse at success
  dsimp only at success
  split at success
  · cases success
  · rename_i accepted
    rw [Bool.or_eq_true, not_or, List.isEmpty_iff] at accepted
    obtain ⟨n, value, rfl⟩ := map_ok success
    have amount : ∀ c ∈ (Text.trim s).toList.takeWhile isAmountChar, isAmountChar c = true :=
      fun _ member => List.mem_takeWhile_imp member
    generalize (Text.trim s).toList.takeWhile isAmountChar = number at amount value accepted
    have trimmed : trimChars number = number :=
      trimChars_of_trimmed (trimmed_of_forall fun c member => isBlank_of_amountChar (amount c member))
    have visible : ¬Blank (String.ofList number).toList := by
      rw [String.toList_ofList, ← trimChars_eq_nil_iff, trimmed]
      exact accepted.1
    obtain ⟨q, written, rfl⟩ := written_of_parseAmount visible value
    rw [String.toList_ofList, trimmed] at written
    exact towardZero_nonneg (nonneg_of_written written amount)

theorem tells_of_parse {piece : List Char} {c : Coin} (short : piece.length ≤ int64Max)
    (success : parse (String.ofList piece) = .ok c) : Tells piece c := by
  obtain ⟨front, back, before, behind, whole⟩ := exists_padding piece
  rw [parse, trim_ofList, String.toList_ofList] at success
  generalize trimChars piece = core at success whole
  subst whole
  have cut : core.takeWhile isAmountChar ++ core.dropWhile isAmountChar = core :=
    List.takeWhile_append_dropWhile
  have amount : ∀ c ∈ core.takeWhile isAmountChar, isAmountChar c = true :=
    fun _ member => List.mem_takeWhile_imp member
  obtain ⟨gap, trail, between, trailing, rest⟩ := exists_padding (core.dropWhile isAmountChar)
  generalize core.takeWhile isAmountChar = number at cut amount success
  generalize trimChars (core.dropWhile isAmountChar) = denom at rest success
  rw [rest] at cut
  subst cut
  split at success
  · cases success
  · rename_i accepted
    rw [Bool.or_eq_true, not_or, List.isEmpty_iff, Bool.not_eq_true', Bool.not_eq_false,
      isDenom_iff] at accepted
    obtain ⟨n, value, rfl⟩ := map_ok success
    have within : number.length ≤ int64Max := by
      simp only [List.length_append] at short
      omega
    obtain ⟨k, digits, rfl⟩ := (parseAmount_number_iff accepted.1 amount within).mp value
    refine ⟨front, number, gap, denom, trail ++ back, k, ?_, before, between, trailing.append behind,
      digits, accepted.2, rfl⟩
    simp only [List.append_assoc]

theorem parse_iff {piece : List Char} {c : Coin} (short : piece.length ≤ int64Max) :
    parse (String.ofList (trimChars piece)) = .ok c ↔ Tells piece c := by
  constructor
  · intro success
    obtain ⟨front, back, before, behind, whole⟩ := exists_padding piece
    have within : (trimChars piece).length ≤ int64Max := by
      have part := congrArg List.length whole
      rw [List.length_append, List.length_append] at part
      omega
    rw [whole]
    exact (tells_of_parse within success).padded before behind
  · rintro ⟨front, number, between, denom, back, n, rfl, before, gap, behind, told, valid, rfl⟩
    obtain ⟨filled, amount⟩ := number_amount told
    have within : number.length ≤ int64Max := by
      simp only [List.length_append] at short
      omega
    exact parse_padded before gap behind filled amount valid
      ((parseAmount_number_iff filled amount within).mpr ⟨n, told, rfl⟩)

/-! ### Lists -/

theorem splitChars_eq (c : Char) (cs : List Char) : splitChars c cs = cs.splitOn c := by
  induction cs with
  | nil => rfl
  | cons x cs ih =>
    rw [splitChars, List.splitOn_cons_eq_if_modifyHead, ih]
    by_cases same : x = c
    · rw [if_pos same, if_pos (beq_iff_eq.mpr same)]
    · obtain ⟨part, parts, split⟩ := List.exists_cons_of_ne_nil (List.splitOn_ne_nil c cs)
      rw [if_neg same, if_neg (beq_iff_eq.not.mpr same), split]
      rfl

theorem length_of_mem_splitOn {c : Char} {cs piece : List Char} (member : piece ∈ cs.splitOn c) :
    piece.length ≤ cs.length := by
  induction cs generalizing piece with
  | nil =>
    rw [List.splitOn_nil, List.mem_singleton] at member
    rw [member]
  | cons x cs ih =>
    rw [List.splitOn_cons_eq_if_modifyHead] at member
    split at member
    · rcases List.mem_cons.mp member with rfl | later
      · exact Nat.zero_le _
      · exact Nat.le_succ_of_le (ih later)
    · obtain ⟨part, parts, split⟩ := List.exists_cons_of_ne_nil (List.splitOn_ne_nil c cs)
      rw [split, List.modifyHead_cons] at member
      rw [split] at ih
      rcases List.mem_cons.mp member with rfl | later
      · exact Nat.succ_le_succ (ih List.mem_cons_self)
      · exact Nat.le_succ_of_le (ih (List.mem_cons_of_mem _ later))

theorem parseList_eq (s : String) :
    parseList s = (pieces s).mapM fun piece => parse (String.ofList (trimChars piece)) := by
  have filled : (fun cs : List Char => !cs.isEmpty) ∘ trimChars =
      fun piece => piece.any fun c => !isBlank c := by
    funext piece
    rw [Bool.eq_iff_iff, Function.comp_apply, Bool.not_eq_true', List.isEmpty_eq_false_iff, Ne,
      trimChars_eq_nil_iff, Blank]
    simp
  rw [parseList, listParts, splitChars_eq, List.filter_map, filled, List.map_map, List.mapM_map, pieces]
  simp only [Function.comp_def]

/-- A list is read exactly if all of its pieces tell a coin, and these are the coins that it is read as. -/
theorem parseList_ok_iff {s : String} (short : s.length ≤ int64Max) {coins : List Coin} :
    parseList s = .ok coins ↔ List.Forall₂ Tells (pieces s) coins := by
  have within : ∀ piece ∈ pieces s, piece.length ≤ int64Max := by
    intro piece member
    have part := length_of_mem_splitOn (List.mem_of_mem_filter member)
    rw [String.length_toList] at part
    omega
  rw [parseList_eq, mapM_eq_ok_iff]
  constructor
  · intro read
    exact ((List.forall₂_and_left _ _).mpr ⟨within, read⟩).imp fun _ _ h => (parse_iff h.1).mp h.2
  · intro told
    exact ((List.forall₂_and_left _ _).mpr ⟨within, told⟩).imp fun _ _ h => (parse_iff h.1).mpr h.2

/-! ### Coins in print -/

theorem splitOn_padded {pad lead first : List Char} {others : List (List Char)} (before : ',' ∉ lead)
    (padding : ',' ∉ pad) (own : ',' ∉ first) (texts : ∀ text ∈ others, ',' ∉ text) :
    (lead ++ (',' :: pad).intercalate (first :: others)).splitOn ',' =
      (lead ++ first) :: others.map (pad ++ ·) := by
  have front : ',' ∉ lead ++ first := by
    rw [List.mem_append]
    exact not_or.mpr ⟨before, own⟩
  induction others generalizing lead first with
  | nil =>
    rw [List.intercalate_singleton, List.splitOn_eq_singleton front]
    rfl
  | cons second others ih =>
    obtain ⟨next, later⟩ := List.forall_mem_cons.mp texts
    have paddedNext : ',' ∉ pad ++ second := by
      rw [List.mem_append]
      exact not_or.mpr ⟨padding, next⟩
    rw [List.intercalate_cons_cons, ← List.append_assoc, ← List.append_assoc, List.append_assoc,
      List.cons_append, List.splitOn_append_cons_self_of_not_mem front,
      ih padding next later paddedNext, List.map_cons]

theorem render_amount {c : Coin} (natural : c.IsNatural) :
    c.amount.render.toList ≠ [] ∧ ∀ d ∈ c.amount.render.toList, isAmountChar d = true := by
  obtain ⟨n, amount⟩ := isNatural_iff.mp natural
  have digits : c.amount.render.toList = Nat.toDigits 10 n := by
    rw [amount, render_ofInt]
    exact Nat.toList_repr
  rw [digits]
  exact ⟨Nat.toDigits_ne_nil, fun d member => isAmountChar_iff.mpr (.inl (isDigit_toDigits n d member))⟩

theorem comma_notMem_render {c : Coin} (natural : c.IsNatural) (valid : DenomText c.denom.toList) :
    ',' ∉ c.render.toList := by
  rw [render, String.toList_append, List.mem_append]
  refine not_or.mpr ⟨fun member => ?_, fun member => ?_⟩
  · exact absurd ((render_amount natural).2 _ member) (by decide)
  · exact absurd (valid.chars _ member) (by decide)

theorem parse_render {c : Coin} {pad : List Char} (blank : Blank pad) (natural : c.IsNatural)
    (valid : DenomText c.denom.toList) :
    parse (String.ofList (trimChars (pad ++ c.render.toList))) = .ok c := by
  obtain ⟨filled, amount⟩ := render_amount natural
  have value : parseAmount (String.ofList c.amount.render.toList) = .ok c.amount := by
    rw [String.ofList_toList, natural.1.render, parseAmount_toString, ← natural.1.eq_ofInt]
  have padded := parse_padded blank .nil .nil filled amount valid value
  rw [List.append_nil, List.append_nil, String.ofList_toList] at padded
  rwa [render, String.toList_append]

theorem render_visible {c : Coin} (natural : c.IsNatural) (pad : List Char) :
    (pad ++ c.render.toList).any (fun d => !isBlank d) = true := by
  obtain ⟨filled, amount⟩ := render_amount natural
  obtain ⟨d, member⟩ := List.exists_mem_of_ne_nil _ filled
  have inside : d ∈ pad ++ c.render.toList := by
    rw [render, String.toList_append]
    exact List.mem_append_right pad (List.mem_append_left _ member)
  refine List.any_eq_true.mpr ⟨d, inside, ?_⟩
  rw [isBlank_of_amountChar (amount d member)]
  rfl

theorem pieces_printed {first : Coin} {others : List Coin} {pad : List Char} (padding : ',' ∉ pad)
    (natural : ∀ c ∈ first :: others, c.IsNatural ∧ DenomText c.denom.toList) :
    pieces (String.intercalate (String.ofList (',' :: pad)) ((first :: others).map render)) =
      first.render.toList :: others.map fun c => pad ++ c.render.toList := by
  obtain ⟨⟨amount, valid⟩, rest⟩ := List.forall_mem_cons.mp natural
  have texts : ∀ text ∈ others.map fun c => c.render.toList, ',' ∉ text := by
    intro text member
    obtain ⟨c, among, rfl⟩ := List.mem_map.mp member
    exact comma_notMem_render (rest c among).1 (rest c among).2
  have parts := splitOn_padded List.not_mem_nil padding (comma_notMem_render amount valid) texts
  rw [List.nil_append, List.nil_append, List.map_map] at parts
  rw [pieces, String.toList_intercalate, String.toList_ofList, List.map_map, List.map_cons]
  simp only [Function.comp_def] at parts ⊢
  rw [parts, List.filter_eq_self]
  intro piece member
  rcases List.mem_cons.mp member with rfl | later
  · exact render_visible amount []
  · obtain ⟨c, among, rfl⟩ := List.mem_map.mp later
    exact render_visible (rest c among).1 pad

theorem parseList_printed {coins : List Coin} {pad : List Char} (blank : Blank pad)
    (natural : ∀ c ∈ coins, c.IsNatural ∧ DenomText c.denom.toList) :
    parseList (String.intercalate (String.ofList (',' :: pad)) (coins.map render)) = .ok coins := by
  cases coins with
  | nil => rfl
  | cons first others =>
    have padding : ',' ∉ pad := fun member => absurd (blank _ member) (by decide)
    obtain ⟨⟨amount, valid⟩, rest⟩ := List.forall_mem_cons.mp natural
    rw [parseList_eq, pieces_printed padding natural, mapM_eq_ok_iff]
    have head : parse (String.ofList (trimChars ([] ++ first.render.toList))) = .ok first :=
      parse_render .nil amount valid
    refine .cons head ?_
    rw [List.forall₂_map_left_iff, List.forall₂_same]
    exact fun c member => parse_render blank (rest c member).1 (rest c member).2

theorem exists_forall₂_iff {α β : Type} {R : α → β → Prop} {xs : List α} :
    (∃ ys, List.Forall₂ R xs ys) ↔ ∀ x ∈ xs, ∃ y, R x y := by
  induction xs with
  | nil => exact iff_of_true ⟨[], .nil⟩ nofun
  | cons x xs ih =>
    rw [List.forall_mem_cons, ← ih]
    constructor
    · rintro ⟨_, related⟩
      cases related with
      | cons first later => exact ⟨⟨_, first⟩, _, later⟩
    · rintro ⟨⟨_, first⟩, _, later⟩
      exact ⟨_, .cons first later⟩

/-- A list is read exactly if all of its pieces are a number and a denomination, and each of them becomes
the coin that it tells. What is printed of coins, with a comma or with a comma and a blank between them, is
read as these coins. A text in memory is never longer than the bound. -/
theorem parseList_grammar :
    (∀ (s : String) (coins : List Coin), s.length ≤ int64Max →
      (parseList s = .ok coins ↔ List.Forall₂ Tells (pieces s) coins)) ∧
    (∀ s : String, s.length ≤ int64Max →
      ((∃ coins, parseList s = .ok coins) ↔ ∀ piece ∈ pieces s, ∃ c, Tells piece c)) ∧
    ∀ coins : List Coin, (∀ c ∈ coins, c.IsNatural ∧ DenomText c.denom.toList) →
      parseList (String.intercalate "," (coins.map render)) = .ok coins ∧
        parseList (renderList coins) = .ok coins := by
  refine ⟨fun s coins short => parseList_ok_iff short, fun s short => ?_, fun coins natural => ?_⟩
  · simp only [parseList_ok_iff short, exists_forall₂_iff]
  · have blank : Blank [' '] := List.forall_mem_singleton.mpr rfl
    exact ⟨parseList_printed .nil natural, parseList_printed blank natural⟩

theorem parseList_grammar_of_mixed :
    (" 12.75 uusd,,\t7 ibc/27394FB0 ".length ≤ int64Max ∧
      parseList " 12.75 uusd,,\t7 ibc/27394FB0 " = .ok [⟨12, "uusd"⟩, ⟨7, "ibc/27394FB0"⟩] ∧
      List.Forall₂ Tells (pieces " 12.75 uusd,,\t7 ibc/27394FB0 ")
        [⟨12, "uusd"⟩, ⟨7, "ibc/27394FB0"⟩]) ∧
    ("5uluna,1.2.3uusd".length ≤ int64Max ∧ (¬∃ coins, parseList "5uluna,1.2.3uusd" = .ok coins) ∧
      ¬∀ piece ∈ pieces "5uluna,1.2.3uusd", ∃ c, Tells piece c) ∧
    (∀ c ∈ ([⟨12, "uusd"⟩, ⟨7, "ibc/27394FB0"⟩] : List Coin), c.IsNatural ∧ DenomText c.denom.toList) ∧
      parseList "12uusd,7ibc/27394FB0" = .ok [⟨12, "uusd"⟩, ⟨7, "ibc/27394FB0"⟩] ∧
      parseList "12uusd, 7ibc/27394FB0" = .ok [⟨12, "uusd"⟩, ⟨7, "ibc/27394FB0"⟩] := by
  obtain ⟨grammar, existence, printed⟩ := parseList_grammar
  have short : " 12.75 uusd,,\t7 ibc/27394FB0 ".length ≤ int64Max := by decide
  have short' : "5uluna,1.2.3uusd".length ≤ int64Max := by decide
  have read : parseList " 12.75 uusd,,\t7 ibc/27394FB0 " =
      .ok [⟨12, "uusd"⟩, ⟨7, "ibc/27394FB0"⟩] := by decide
  have refused : ¬∃ coins, parseList "5uluna,1.2.3uusd" = .ok coins := by
    have failure : parseList "5uluna,1.2.3uusd" = .error (.invalidCoin "1.2.3") := by decide
    rw [failure]
    nofun
  have natural : ∀ c ∈ ([⟨12, "uusd"⟩, ⟨7, "ibc/27394FB0"⟩] : List Coin),
      c.IsNatural ∧ DenomText c.denom.toList := by
    simp only [← isDenom_iff]
    decide
  exact ⟨⟨short, read, (grammar _ _ short).mp read⟩,
    ⟨short', refused, fun told => refused ((existence _ short').mpr told)⟩, natural,
    (printed _ natural).1, (printed _ natural).2⟩

end TaxLedger.Coin
