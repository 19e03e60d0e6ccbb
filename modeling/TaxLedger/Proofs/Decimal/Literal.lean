import Mathlib.Data.List.Induction
import Mathlib.Data.List.TakeWhile
import Mathlib.Data.Nat.Digits.Defs
import TaxLedger.Proofs.Decimal.Value
import TaxLedger.Proofs.Text.Blank
import TaxLedger.Proofs.Text.Digits

/-!
Decimals as they are written. A mantissa is a sign and digits with a point among them, an exponent a
letter e, a sign and digits. What is read as a decimal is exactly what is written so, with the number that
is meant (`ofChars?_iff`). The reader has one form more: a point in front of the sign, which then takes up
a place.
-/

namespace TaxLedger.Decimal

inductive Sign where
  | absent
  | plus
  | minus
  deriving DecidableEq, Repr

namespace Sign

def text : Sign → List Char
  | absent => []
  | plus => ['+']
  | minus => ['-']

def factor : Sign → ℤ
  | minus => -1
  | _ => 1

end Sign

theorem Sign.factor_absent : Sign.absent.factor = 1 := rfl

theorem Sign.forall_text {P : Char → Prop} (plus : P '+') (minus : P '-') (sign : Sign) :
    ∀ c ∈ sign.text, P c := by
  cases sign with
  | absent => exact List.forall_mem_nil P
  | plus => exact List.forall_mem_singleton.mpr plus
  | minus => exact List.forall_mem_singleton.mpr minus

/-- Digits, behind the first of which underscores may stand. -/
def IsNumeral (cs : List Char) : Prop :=
  (∃ c, cs.head? = some c ∧ c.isDigit = true) ∧ ∀ c ∈ cs, c.isDigit = true ∨ c = '_'

instance (cs : List Char) : Decidable (IsNumeral cs) :=
  decidable_of_iff (cs.head?.any Char.isDigit = true ∧ cs.all (fun c => c.isDigit || c == '_') = true) <| by
    simp only [IsNumeral, Option.any_eq_true, List.all_eq_true, Bool.or_eq_true, beq_iff_eq]

/-- The characters that take up a place. -/
def placesOf (cs : List Char) : List Char := cs.filter (· != '_')

def numeralValue (cs : List Char) : ℕ := Nat.ofDigits 10 ((placesOf cs).reverse.map Text.digitValue)

/-- The number that stands before the exponent, and how many places it has behind the point. -/
inductive Mantissa : List Char → ℚ → ℕ → Prop
  | whole (sign : Sign) {w : List Char} (digits : IsNumeral w) :
      Mantissa (sign.text ++ w) (sign.factor * numeralValue w) 0
  | pointed (sign : Sign) {w f : List Char} (digits : IsNumeral (w ++ f)) :
      Mantissa (sign.text ++ w ++ '.' :: f)
        (sign.factor * (numeralValue w + numeralValue f / 10 ^ (placesOf f).length)) (placesOf f).length

/-- A mantissa with its point in front of a sign, and the sign in the first place behind it. -/
inductive PointBeforeSign : List Char → ℚ → ℕ → Prop
  | intro {sign : Sign} (signed : sign ≠ .absent) {f : List Char} (digits : IsNumeral f) :
      PointBeforeSign ('.' :: (sign.text ++ f))
        (sign.factor * (numeralValue f / 10 ^ ((placesOf f).length + 1))) ((placesOf f).length + 1)

inductive Exponent : List Char → ℤ → Prop
  | absent : Exponent [] 0
  | present {mark : Char} (opens : mark = 'e' ∨ mark = 'E') (sign : Sign) {ds : List Char}
      (filled : ds ≠ []) (digits : ∀ c ∈ ds, c.isDigit = true) :
      Exponent (mark :: (sign.text ++ ds)) (sign.factor * numeralValue ds)

def Form (m : List Char) (v : ℚ) (k : ℕ) : Prop := Mantissa m v k ∨ PointBeforeSign m v k

/-- A mantissa of that form and an exponent. The exponent is held in 128 bits and the scale in 64. -/
def Written (form : List Char → ℚ → ℕ → Prop) (cs : List Char) (q : ℚ) : Prop :=
  ∃ m x v k e, cs = m ++ x ∧ form m v k ∧ Exponent x e ∧ -2 ^ 127 ≤ e ∧ e < 2 ^ 127 ∧
    -2 ^ 63 ≤ (k : ℤ) - e ∧ (k : ℤ) - e < 2 ^ 63 ∧ q = v * 10 ^ e

/-! ### Digits -/

theorem placesOf_append (cs ds : List Char) : placesOf (cs ++ ds) = placesOf cs ++ placesOf ds :=
  List.filter_append ..

theorem placesOf_of_digits {cs : List Char} (digits : ∀ c ∈ cs, c.isDigit = true) :
    placesOf cs = cs := by
  refine List.filter_eq_self.mpr fun c member => ?_
  rw [bne_iff_ne]
  rintro rfl
  exact absurd (digits _ member) (by decide)

theorem ofDigitsFrom_eq (cs : List Char) :
    Text.ofDigitsFrom 0 cs = Nat.ofDigits 10 (cs.reverse.map Text.digitValue) := by
  induction cs using List.reverseRecOn with
  | nil => rfl
  | append_singleton cs c ih =>
    rw [List.reverse_append, List.reverse_singleton, List.singleton_append, List.map_cons,
      Nat.ofDigits_cons, ← ih, Text.ofDigitsFrom, Text.ofDigitsFrom, List.foldl_append, Nat.add_comm]
    rfl

theorem numeralValue_append (w f : List Char) :
    numeralValue (w ++ f) = numeralValue w * 10 ^ (placesOf f).length + numeralValue f := by
  rw [numeralValue, placesOf_append, List.reverse_append, List.map_append, Nat.ofDigits_append,
    List.length_map, List.length_reverse, Nat.add_comm, Nat.mul_comm]
  rfl

theorem digitValue_lt {c : Char} (digit : c.isDigit = true) : Text.digitValue c < 10 := by
  rw [Char.isDigit, Bool.and_eq_true, decide_eq_true_eq, decide_eq_true_eq] at digit
  have high : c.toNat ≤ 57 := digit.2
  rw [Text.digitValue]
  omega

theorem numeralValue_lt {cs : List Char} (digits : ∀ c ∈ cs, c.isDigit = true ∨ c = '_') :
    numeralValue cs < 10 ^ (placesOf cs).length := by
  have below : ∀ d ∈ (placesOf cs).reverse.map Text.digitValue, d < 10 := by
    intro d member
    obtain ⟨c, among, rfl⟩ := List.mem_map.mp member
    obtain ⟨inside, kept⟩ := List.mem_filter.mp (List.mem_reverse.mp among)
    rcases digits c inside with digit | underscore
    · exact digitValue_lt digit
    · simp [underscore] at kept
  have bound := Nat.ofDigits_lt_base_pow_length (by decide) below
  rwa [List.length_map, List.length_reverse] at bound

/-- What stands behind a point is less than one. -/
theorem fraction_bounds {cs : List Char} (digits : ∀ c ∈ cs, c.isDigit = true ∨ c = '_') :
    0 ≤ (numeralValue cs : ℚ) / 10 ^ (placesOf cs).length ∧
      (numeralValue cs : ℚ) / 10 ^ (placesOf cs).length < 1 := by
  have bound : (numeralValue cs : ℚ) < 10 ^ (placesOf cs).length := by
    exact_mod_cast numeralValue_lt digits
  exact ⟨by positivity, (div_lt_one (by positivity)).mpr bound⟩

/-! ### Reading the parts -/

theorem IsNumeral.head {cs : List Char} (numeral : IsNumeral cs) :
    ∃ c rest, cs = c :: rest ∧ c.isDigit = true := by
  obtain ⟨⟨c, first, digit⟩, _⟩ := numeral
  obtain ⟨rest, rfl⟩ := List.head?_eq_some_iff.mp first
  exact ⟨c, rest, rfl, digit⟩

theorem IsNumeral.filled {cs : List Char} (numeral : IsNumeral cs) : cs ≠ [] := by
  obtain ⟨c, rest, rfl, _⟩ := numeral.head
  exact List.cons_ne_nil c rest

theorem isNumeral_of_digits {cs : List Char} (filled : cs ≠ [])
    (digits : ∀ c ∈ cs, c.isDigit = true) : IsNumeral cs := by
  obtain ⟨c, rest, rfl⟩ := List.exists_cons_of_ne_nil filled
  exact ⟨⟨c, rfl, digits c List.mem_cons_self⟩, fun d member => .inl (digits d member)⟩

theorem magnitude?_eq_some_iff {cs : List Char} {n : ℕ} :
    magnitude? cs = some n ↔ IsNumeral cs ∧ n = numeralValue cs := by
  have value : Text.ofDigitsFrom 0 (cs.filter (· != '_')) = numeralValue cs := ofDigitsFrom_eq _
  rw [magnitude?.eq_def]
  split
  · refine iff_of_false nofun fun ⟨numeral, _⟩ => ?_
    obtain ⟨c, rest, same, _⟩ := numeral.head
    cases same
  · refine iff_of_false nofun fun ⟨numeral, _⟩ => ?_
    obtain ⟨c, rest, same, digit⟩ := numeral.head
    cases same
    cases digit
  · rename_i filled first
    obtain ⟨c, cs, rfl⟩ := List.exists_cons_of_ne_nil filled
    have numeral : ((c :: cs).all fun c => Text.isDigit c || c == '_') = true ↔
        IsNumeral (c :: cs) := by
      simp only [List.all_eq_true, Bool.or_eq_true, Text.isDigit_eq, beq_iff_eq]
      constructor
      · intro all
        have digit := (all c List.mem_cons_self).resolve_right fun same => first cs (by rw [same])
        exact ⟨⟨c, rfl, digit⟩, all⟩
      · exact And.right
    rw [value]
    split
    · rename_i all
      rw [Option.some.injEq, eq_comm]
      exact (and_iff_right (numeral.mp all)).symm
    · rename_i other
      exact iff_of_false nofun fun h => other (numeral.mpr h.1)

/-- A reader that takes a sign off what another one reads. -/
theorem signed_eq_some_iff {f : List Char → Option ℤ} {r : List Char → Option ℕ}
    {Good : List Char → Prop} (minus : ∀ w, f ('-' :: w) = (r w).map fun n : ℕ => -(n : ℤ))
    (plus : ∀ w, f ('+' :: w) = (r w).map Int.ofNat)
    (bare : ∀ w, (∀ rest, w ≠ '-' :: rest) → (∀ rest, w ≠ '+' :: rest) →
      f w = (r w).map Int.ofNat)
    (reads : ∀ w n, r w = some n ↔ Good w ∧ n = numeralValue w)
    (starts : ∀ w, Good w → ∃ c rest, w = c :: rest ∧ c.isDigit = true) {cs : List Char} {n : ℤ} :
    f cs = some n ↔ ∃ (sign : Sign) (w : List Char), cs = sign.text ++ w ∧ Good w ∧
      n = sign.factor * numeralValue w := by
  constructor
  · intro success
    by_cases negative : ∃ w, cs = '-' :: w
    · obtain ⟨w, rfl⟩ := negative
      rw [minus] at success
      obtain ⟨k, value, rfl⟩ := Option.map_eq_some_iff.mp success
      obtain ⟨good, rfl⟩ := (reads w k).mp value
      exact ⟨.minus, w, rfl, good, (Int.neg_one_mul _).symm⟩
    by_cases positive : ∃ w, cs = '+' :: w
    · obtain ⟨w, rfl⟩ := positive
      rw [plus] at success
      obtain ⟨k, value, rfl⟩ := Option.map_eq_some_iff.mp success
      obtain ⟨good, rfl⟩ := (reads w k).mp value
      exact ⟨.plus, w, rfl, good, (Int.one_mul _).symm⟩
    · rw [bare cs (not_exists.mp negative) (not_exists.mp positive)] at success
      obtain ⟨k, value, rfl⟩ := Option.map_eq_some_iff.mp success
      obtain ⟨good, rfl⟩ := (reads cs k).mp value
      exact ⟨.absent, cs, rfl, good, (Int.one_mul _).symm⟩
  · rintro ⟨sign, w, rfl, good, rfl⟩
    have value := (reads w _).mpr ⟨good, rfl⟩
    cases sign with
    | absent =>
      obtain ⟨c, rest, rfl, digit⟩ := starts w good
      -- A digit is no sign.
      rw [Sign.text, List.nil_append, bare _ (by rintro _ ⟨⟩; cases digit) (by rintro _ ⟨⟩; cases digit),
        value]
      exact congrArg some (Int.one_mul _).symm
    | plus => exact (plus w).trans (value ▸ congrArg some (Int.one_mul _).symm)
    | minus => exact (minus w).trans (value ▸ congrArg some (Int.neg_one_mul _).symm)

theorem coefficient?_eq_some_iff {cs : List Char} {n : ℤ} :
    coefficient? cs = some n ↔
      ∃ (sign : Sign) (w : List Char), cs = sign.text ++ w ∧ IsNumeral w ∧
        n = sign.factor * numeralValue w := by
  refine signed_eq_some_iff (r := magnitude?) ?_ ?_ ?_ ?_ ?_
  · intro w
    rw [coefficient?]
    cases magnitude? w <;> rfl
  · intro w
    rfl
  · intro w negative positive
    rw [coefficient?]
    · exact negative
    · exact positive
  · exact fun _ _ => magnitude?_eq_some_iff
  · exact fun _ numeral => numeral.head

theorem intOfChars?_eq_some_iff {cs : List Char} {n : ℤ} :
    Text.intOfChars? cs = some n ↔
      ∃ (sign : Sign) (ds : List Char), cs = sign.text ++ ds ∧
        (ds ≠ [] ∧ ∀ c ∈ ds, c.isDigit = true) ∧ n = sign.factor * numeralValue ds := by
  refine signed_eq_some_iff (r := Text.natOfChars?) ?_ ?_ ?_ ?_ ?_
  · intro w
    rw [Text.intOfChars?]
    cases Text.natOfChars? w <;> rfl
  · intro w
    rfl
  · intro w negative positive
    rw [Text.intOfChars?]
    · exact positive
    · exact negative
  · intro ds k
    have value : (∀ c ∈ ds, c.isDigit = true) → Text.ofDigitsFrom 0 ds = numeralValue ds := by
      intro digits
      rw [ofDigitsFrom_eq, numeralValue, placesOf_of_digits digits]
    have digits : (!ds.isEmpty && ds.all Text.isDigit) = true ↔ ds ≠ [] ∧ ∀ c ∈ ds, c.isDigit = true := by
      simp [Text.isDigit_eq]
    rw [Text.natOfChars?]
    split
    · rename_i all
      rw [Option.some.injEq, eq_comm, value (digits.mp all).2]
      exact (and_iff_right (digits.mp all)).symm
    · rename_i other
      constructor
      · intro read
        cases read
      · intro numeral
        exact absurd (digits.mpr numeral.1) other
  · rintro ds ⟨filled, digits⟩
    exact (isNumeral_of_digits filled digits).head

theorem exponent?_eq_some_iff {x : List Char} (opens : ∀ c, x.head? = some c → isExponentMark c = true)
    {e : ℤ} : exponent? x = some e ↔ Exponent x e ∧ -2 ^ 127 ≤ e ∧ e < 2 ^ 127 := by
  have bounds : isInt128 e = true ↔ -2 ^ 127 ≤ e ∧ e < 2 ^ 127 := by
    rw [isInt128, Bool.and_eq_true, decide_eq_true_eq, decide_eq_true_eq]
    rfl
  cases x with
  | nil =>
    constructor
    · rintro ⟨⟩
      exact ⟨.absent, by decide⟩
    · rintro ⟨⟨⟩, _⟩
      rfl
  | cons mark cs =>
    have letter : mark = 'e' ∨ mark = 'E' := by
      have opened := opens mark rfl
      rwa [isExponentMark, Bool.or_eq_true, beq_iff_eq, beq_iff_eq] at opened
    rw [exponent?, Option.filter_eq_some_iff, bounds, intOfChars?_eq_some_iff]
    refine and_congr_left fun _ => ⟨?_, ?_⟩
    · rintro ⟨sign, ds, rfl, ⟨filled, digits⟩, rfl⟩
      exact .present letter sign filled digits
    · rintro (_ | ⟨_, sign, filled, digits⟩)
      exact ⟨sign, _, rfl, ⟨filled, digits⟩, rfl⟩

/-! ### Mantissas -/

theorem splitPoint_whole {m : List Char} (pointless : '.' ∉ m) : splitPoint m = (m, 0) := by
  have rest : m.dropWhile (· != '.') = [] := by
    refine List.dropWhile_eq_nil_iff.mpr fun c member => ?_
    rw [bne_iff_ne]
    rintro rfl
    exact pointless member
  rw [splitPoint, rest]

theorem splitPoint_pointed {lead : List Char} (pointless : '.' ∉ lead) (trail : List Char) :
    splitPoint (lead ++ '.' :: trail) = (lead ++ trail, (placesOf trail).length) := by
  have before : ∀ c ∈ lead, (c != '.') = true := by
    intro c member
    rw [bne_iff_ne]
    rintro rfl
    exact pointless member
  have front : (lead ++ '.' :: trail).takeWhile (· != '.') = lead := by
    rw [List.takeWhile_append_of_pos before, List.takeWhile_cons_of_neg (by decide), List.append_nil]
  have back : (lead ++ '.' :: trail).dropWhile (· != '.') = '.' :: trail := by
    rw [List.dropWhile_append_of_pos before, List.dropWhile_cons_of_neg (by decide)]
  rw [splitPoint, front, back]
  rfl

theorem point_notMem_text (sign : Sign) : '.' ∉ sign.text := by
  cases sign <;> decide

theorem point_notMem_numeral {w : List Char} (digits : ∀ c ∈ w, c.isDigit = true ∨ c = '_') :
    '.' ∉ w := by
  intro member
  rcases digits _ member with digit | underscore
  · cases digit
  · cases underscore

theorem length_placesOf_signed {sign : Sign} (signed : sign ≠ .absent) (w : List Char) :
    (placesOf (sign.text ++ w)).length = (placesOf w).length + 1 := by
  cases sign with
  | absent => exact absurd rfl signed
  | plus => rfl
  | minus => rfl

/-- Without its point a mantissa is an integer, and the point moves it by the places behind. -/
theorem coefficient?_of_form {m : List Char} {v : ℚ} {k : ℕ} (form : Form m v k) :
    ∃ c, coefficient? (splitPoint m).1 = some c ∧ (splitPoint m).2 = k ∧ v = c / 10 ^ k := by
  rcases form with form | form
  · cases form with
    | @whole sign w digits =>
      have pointless : '.' ∉ sign.text ++ w := by
        rw [List.mem_append]
        exact not_or.mpr ⟨point_notMem_text sign, point_notMem_numeral digits.2⟩
      rw [splitPoint_whole pointless]
      refine ⟨_, coefficient?_eq_some_iff.mpr ⟨sign, w, rfl, digits, rfl⟩, rfl, ?_⟩
      push_cast
      rw [pow_zero, div_one]
    | @pointed sign w f digits =>
      have pointless : '.' ∉ sign.text ++ w := by
        rw [List.mem_append]
        refine not_or.mpr ⟨point_notMem_text sign, point_notMem_numeral fun c member => ?_⟩
        exact digits.2 c (List.mem_append_left f member)
      rw [splitPoint_pointed pointless]
      refine ⟨_, coefficient?_eq_some_iff.mpr ⟨sign, w ++ f, List.append_assoc .., digits, rfl⟩, rfl, ?_⟩
      rw [numeralValue_append]
      push_cast
      field_simp
  · cases form with
    | @intro sign signed f digits =>
      have split := @splitPoint_pointed [] List.not_mem_nil (sign.text ++ f)
      rw [List.nil_append, List.nil_append] at split
      rw [split, length_placesOf_signed signed]
      refine ⟨_, coefficient?_eq_some_iff.mpr ⟨sign, f, rfl, digits, rfl⟩, rfl, ?_⟩
      push_cast
      rw [mul_div_assoc]

theorem form_of_coefficient? {m : List Char} {c : ℤ} (read : coefficient? (splitPoint m).1 = some c) :
    Form m (c / 10 ^ (splitPoint m).2) (splitPoint m).2 := by
  by_cases pointed : '.' ∈ m
  · obtain ⟨lead, trail, rfl, pointless⟩ := List.eq_append_cons_of_mem pointed
    rw [splitPoint_pointed pointless] at read ⊢
    obtain ⟨sign, w, whole, digits, rfl⟩ := coefficient?_eq_some_iff.mp read
    dsimp only at whole ⊢
    have inFront : ∀ w', lead = sign.text ++ w' → w = w' ++ trail →
        Mantissa (lead ++ '.' :: trail)
          ((sign.factor * numeralValue w : ℤ) / 10 ^ (placesOf trail).length)
          (placesOf trail).length := by
      rintro w' rfl rfl
      have value : ((sign.factor * numeralValue (w' ++ trail) : ℤ) : ℚ) /
          10 ^ (placesOf trail).length = sign.factor *
            (numeralValue w' + numeralValue trail / 10 ^ (placesOf trail).length) := by
        rw [numeralValue_append]
        push_cast
        field_simp
      rw [value]
      exact .pointed sign digits
    rcases List.append_eq_append_iff.mp whole with ⟨tail, signText, back⟩ | ⟨w', front, back⟩
    · by_cases none : tail = []
      · subst none
        exact .inl (inFront [] (by rw [signText, List.append_nil, List.append_nil]) back.symm)
      · -- A sign is one character, so that nothing is left of it before the point.
        have short : sign.text.length ≤ 1 := by cases sign <;> decide
        have filled := List.length_pos_of_ne_nil none
        rw [signText, List.length_append] at short
        obtain rfl : lead = [] := List.length_eq_zero_iff.mp (by omega)
        obtain rfl : sign.text = tail := signText
        subst back
        have signed : sign ≠ .absent := by
          rintro rfl
          exact none rfl
        rw [length_placesOf_signed signed, Int.cast_mul, Int.cast_natCast, mul_div_assoc]
        exact .inr (.intro signed digits)
    · exact .inl (inFront w' front back)
  · rw [splitPoint_whole pointed] at read ⊢
    obtain ⟨sign, w, rfl, digits, rfl⟩ := coefficient?_eq_some_iff.mp read
    have value : ((sign.factor * numeralValue w : ℤ) : ℚ) / 10 ^ 0 = sign.factor * numeralValue w := by
      push_cast
      rw [pow_zero, div_one]
    dsimp only
    rw [value]
    exact .inl (.whole sign digits)

/-! ### Decimals -/

theorem not_isExponentMark {c : Char} (digit : c.isDigit = true) : isExponentMark c = false := by
  rw [isExponentMark, Bool.or_eq_false_iff, beq_eq_false_iff_ne, beq_eq_false_iff_ne]
  constructor
  · rintro rfl
    cases digit
  · rintro rfl
    cases digit

theorem mark_of_form {m : List Char} {v : ℚ} {k : ℕ} (form : Form m v k) :
    ∀ c ∈ m, isExponentMark c = false := by
  have signs : ∀ (sign : Sign), ∀ c ∈ sign.text, isExponentMark c = false := Sign.forall_text rfl rfl
  have numerals : ∀ {w : List Char}, (∀ c ∈ w, c.isDigit = true ∨ c = '_') →
      ∀ c ∈ w, isExponentMark c = false := by
    intro w digits c member
    rcases digits c member with digit | rfl
    · exact not_isExponentMark digit
    · rfl
  intro c member
  rcases form with (⟨sign, digits⟩ | ⟨sign, digits⟩) | ⟨_, digits⟩
  · rcases List.mem_append.mp member with before | among
    · exact signs sign c before
    · exact numerals digits.2 c among
  · rcases List.mem_append.mp member with whole | behind
    · rcases List.mem_append.mp whole with before | among
      · exact signs sign c before
      · exact numerals digits.2 c (List.mem_append_left _ among)
    · rcases List.mem_cons.mp behind with rfl | among
      · rfl
      · exact numerals digits.2 c (List.mem_append_right _ among)
  · rcases List.mem_cons.mp member with rfl | behind
    · rfl
    · rcases List.mem_append.mp behind with before | among
      · exact signs _ c before
      · exact numerals digits.2 c among

theorem mark_of_exponent {x : List Char} {e : ℤ} (exponent : Exponent x e) :
    ∀ c, x.head? = some c → isExponentMark c = true := by
  intro c first
  cases exponent with
  | absent => cases first
  | present opens =>
    cases first
    rcases opens with rfl | rfl <;> rfl

/-- A decimal is read exactly from what is written in one of the two forms, and it is the number that is
written. -/
theorem ofChars?_iff {cs : List Char} {q : ℚ} :
    (∃ d, ofChars? cs = some d ∧ d.toRat = q) ↔ Written Form cs q := by
  have scaled (c : ℤ) (k : ℕ) (e : ℤ) : toRat ⟨c, k - e⟩ = c / 10 ^ k * 10 ^ e := by
    rw [toRat, neg_sub, zpow_sub₀ (by norm_num), zpow_natCast]
    ring
  have word (n : ℤ) : isInt64 n = true ↔ -2 ^ 63 ≤ n ∧ n < 2 ^ 63 := by
    rw [isInt64, Bool.and_eq_true, decide_eq_true_eq, decide_eq_true_eq, int64Min, int64Max]
    omega
  constructor
  · rintro ⟨d, read, rfl⟩
    simp only [ofChars?, Option.bind_eq_bind, Option.bind_eq_some_iff] at read
    obtain ⟨e, exponent, c, coefficient, read⟩ := read
    split at read
    · rename_i held
      cases read
      have opens : ∀ c, (cs.dropWhile fun c => !isExponentMark c).head? = some c →
          isExponentMark c = true := by
        intro c first
        have stopped := List.head?_dropWhile_not (fun c => !isExponentMark c) cs
        rw [first] at stopped
        simpa using stopped
      obtain ⟨power, low, high⟩ := (exponent?_eq_some_iff opens).mp exponent
      obtain ⟨least, most⟩ := (word _).mp held
      exact ⟨_, _, _, _, e, List.takeWhile_append_dropWhile.symm, form_of_coefficient? coefficient,
        power, low, high, least, most, scaled ..⟩
    · cases read
  · rintro ⟨m, x, v, k, e, rfl, form, exponent, low, high, least, most, rfl⟩
    have opens := mark_of_exponent exponent
    have unmarked : ∀ c ∈ m, (!isExponentMark c) = true := by
      intro c member
      rw [mark_of_form form c member]
      rfl
    have stops : ∀ c, x.head? = some c → (!isExponentMark c) = false := by
      intro c first
      rw [opens c first]
      rfl
    have front : (m ++ x).takeWhile (fun c => !isExponentMark c) = m := by
      rw [List.takeWhile_append_of_pos unmarked, Text.takeWhile_of_head stops, List.append_nil]
    have back : (m ++ x).dropWhile (fun c => !isExponentMark c) = x := by
      rw [List.dropWhile_append_of_pos unmarked, Text.dropWhile_of_head stops]
    obtain ⟨c, coefficient, rfl, rfl⟩ := coefficient?_of_form form
    have power := (exponent?_eq_some_iff opens).mpr ⟨exponent, low, high⟩
    refine ⟨⟨c, (splitPoint m).2 - e⟩, ?_, scaled ..⟩
    simp only [ofChars?, Option.bind_eq_bind, Option.bind_eq_some_iff]
    refine ⟨e, by rw [back, power], c, by rw [front, coefficient], ?_⟩
    rw [front, if_pos ((word _).mpr ⟨least, most⟩)]

end TaxLedger.Decimal
