import Mathlib.Algebra.Group.Nat.Defs
import TaxLedger.Address.Bech32

/-!
The checksum of bech32. A step is linear in exclusive or (`polyStep_xor`) and only shifts a remainder without
bits at the top (`polyStep_of_lt`), so that the values of a checksum make the remainder come out
(`verify_checksum`).
-/

namespace TaxLedger.Bech32

/-! ### One step -/

/-- Adds to `acc` the generators that the bits of `top` choose. -/
def addChosen (top acc : Nat) (chosen : List (Nat × Nat)) : Nat :=
  chosen.foldl (fun acc entry => if top.testBit entry.2 then acc ^^^ entry.1 else acc) acc

theorem polyStep_eq (chk v : Nat) :
    polyStep chk v =
      addChosen (chk >>> 25) ((chk &&& 0x1ffffff) <<< 5 ^^^ v) generators.zipIdx := by
  have bit (i : Nat) : (chk >>> 25 >>> i) &&& 1 = 1 ↔ (chk >>> 25).testBit i = true := by
    rw [Nat.testBit_eq_decide_div_mod_eq, Nat.and_one_is_mod, Nat.shiftRight_eq_div_pow _ i,
      decide_eq_true_iff]
  simp only [polyStep, addChosen, bit]

theorem addChosen_xor (chosen : List (Nat × Nat)) (top top' acc acc' : Nat) :
    addChosen (top ^^^ top') (acc ^^^ acc') chosen =
      addChosen top acc chosen ^^^ addChosen top' acc' chosen := by
  induction chosen generalizing acc acc' with
  | nil => rfl
  | cons entry rest ih =>
    obtain ⟨g, i⟩ := entry
    have step : (if (top ^^^ top').testBit i then (acc ^^^ acc') ^^^ g else acc ^^^ acc') =
        (if top.testBit i then acc ^^^ g else acc) ^^^
          (if top'.testBit i then acc' ^^^ g else acc') := by
      rw [Nat.testBit_xor]
      cases top.testBit i <;> cases top'.testBit i
      · rfl
      · exact Nat.xor_assoc acc acc' g
      · show acc ^^^ acc' ^^^ g = acc ^^^ g ^^^ acc'
        ac_rfl
      · -- A generator that both choose cancels out.
        calc acc ^^^ acc' = (acc ^^^ acc') ^^^ (g ^^^ g) := by rw [Nat.xor_self, Nat.xor_zero]
          _ = (acc ^^^ g) ^^^ (acc' ^^^ g) := by ac_rfl
    unfold addChosen at ih ⊢
    rw [List.foldl_cons, List.foldl_cons, List.foldl_cons, step, ih]

theorem addChosen_zero (chosen : List (Nat × Nat)) (acc : Nat) : addChosen 0 acc chosen = acc := by
  induction chosen with
  | nil => rfl
  | cons entry rest ih =>
    unfold addChosen at ih ⊢
    rw [List.foldl_cons, Nat.zero_testBit]
    exact ih

theorem addChosen_lt {chosen : List (Nat × Nat)} {acc n : Nat} (top : Nat)
    (generators : ∀ entry ∈ chosen, entry.1 < 2 ^ n) (small : acc < 2 ^ n) :
    addChosen top acc chosen < 2 ^ n := by
  induction chosen generalizing acc with
  | nil => exact small
  | cons entry rest ih =>
    obtain ⟨own, others⟩ := List.forall_mem_cons.mp generators
    unfold addChosen at ih ⊢
    rw [List.foldl_cons]
    apply ih others
    split
    · exact Nat.xor_lt_two_pow small own
    · exact small

theorem polyStep_xor (chk chk' v v' : Nat) :
    polyStep (chk ^^^ chk') (v ^^^ v') = polyStep chk v ^^^ polyStep chk' v' := by
  have shifted : ((chk ^^^ chk') &&& 0x1ffffff) <<< 5 ^^^ (v ^^^ v') =
      ((chk &&& 0x1ffffff) <<< 5 ^^^ v) ^^^ ((chk' &&& 0x1ffffff) <<< 5 ^^^ v') := by
    rw [Nat.and_xor_distrib_right, Nat.shiftLeft_xor_distrib]
    ac_rfl
  rw [polyStep_eq, polyStep_eq, polyStep_eq, Nat.shiftRight_xor_distrib, shifted, addChosen_xor]

/-- A value fills the five bits that a shift leaves free. -/
theorem shiftLeft_xor_of_lt {v : Nat} (chk : Nat) (small : v < 32) :
    chk <<< 5 ^^^ v = 32 * chk + v := by
  apply Nat.eq_of_testBit_eq
  intro j
  rw [Nat.testBit_two_pow_mul_add chk (i := 5) small, Nat.testBit_xor, Nat.testBit_shiftLeft]
  by_cases low : j < 5
  · simp [low, Nat.not_le.mpr low]
  · have high : 2 ^ 5 ≤ 2 ^ j := Nat.pow_le_pow_right (by decide) (by omega)
    have none : v.testBit j = false := Nat.testBit_lt_two_pow (Nat.lt_of_lt_of_le small high)
    simp [low, none, Nat.not_lt.mp low]

theorem polyStep_of_lt {chk v : Nat} (free : chk < 2 ^ 25) (small : v < 32) :
    polyStep chk v = 32 * chk + v := by
  have top : chk >>> 25 = 0 := Nat.shiftRight_eq_zero chk 25 free
  have kept : chk &&& 0x1ffffff = chk := Nat.and_two_pow_sub_one_of_lt_two_pow free
  rw [polyStep_eq, top, kept, addChosen_zero, shiftLeft_xor_of_lt chk small]

theorem polyStep_lt {v : Nat} (chk : Nat) (small : v < 32) : polyStep chk v < 2 ^ 30 := by
  have kept : chk &&& 0x1ffffff < 2 ^ 25 := Nat.and_lt_two_pow chk (by decide)
  rw [polyStep_eq]
  apply addChosen_lt
  · decide
  · rw [shiftLeft_xor_of_lt _ small]
    omega

/-! ### Several steps -/

/-- The steps of `values` from a sum are those of zeros from one part and of `values` from the other. -/
theorem foldl_polyStep_xor (values : List Nat) (chk chk' : Nat) :
    values.foldl polyStep (chk ^^^ chk') =
      (List.replicate values.length 0).foldl polyStep chk ^^^ values.foldl polyStep chk' := by
  induction values generalizing chk chk' with
  | nil => rfl
  | cons v rest ih =>
    have step := polyStep_xor chk chk' 0 v
    rw [Nat.zero_xor] at step
    rw [List.foldl_cons, List.foldl_cons, List.length_cons, List.replicate_succ, List.foldl_cons, step,
      ih]

/-- Up to six values are written into a remainder as digits in base 32. -/
theorem foldl_polyStep_of_lt {values : List Nat} {chk : Nat} (room : Nat)
    (small : ∀ v ∈ values, v < 32) (fits : room + values.length ≤ 6) (free : chk < 32 ^ room) :
    values.foldl polyStep chk = values.foldl (fun n v => 32 * n + v) chk := by
  induction values generalizing room chk with
  | nil => rfl
  | cons v rest ih =>
    obtain ⟨own, others⟩ := List.forall_mem_cons.mp small
    rw [List.length_cons] at fits
    have bound : 32 ^ room ≤ 32 ^ 5 := Nat.pow_le_pow_right (by decide) (by omega)
    have next : 32 * chk + v < 32 ^ (room + 1) := by
      rw [Nat.pow_succ]
      omega
    rw [List.foldl_cons, List.foldl_cons, polyStep_of_lt (by omega) own]
    exact ih (room + 1) others (by omega) next

theorem polymod_append (values more : List Nat) :
    polymod (values ++ more) = more.foldl polyStep (polymod values) :=
  List.foldl_append

theorem foldl_polyStep_lt {values : List Nat} {chk : Nat} (small : ∀ v ∈ values, v < 32)
    (bound : chk < 2 ^ 30) : values.foldl polyStep chk < 2 ^ 30 := by
  induction values generalizing chk with
  | nil => exact bound
  | cons v rest ih =>
    obtain ⟨own, others⟩ := List.forall_mem_cons.mp small
    exact ih others (polyStep_lt chk own)

/-! ### The checksum -/

section
variable {variant : Variant} {readable : List Char} {data : List Nat}

theorem length_checksum : (checksum variant readable data).length = 6 := rfl

theorem checksum_lt : ∀ v ∈ checksum variant readable data, v < 32 := by
  simp only [checksum, List.forall_mem_map]
  intro shift _
  exact Nat.mod_lt _ (by decide)

/-- A remainder is written by its six digits in base 32. -/
theorem foldl_digits {n : Nat} (bound : n < 2 ^ 30) :
    ([25, 20, 15, 10, 5, 0].map fun shift => n / twoTo shift % 32).foldl
      (fun n v => 32 * n + v) 0 = n := by
  have powers : twoTo 25 = 33554432 ∧ twoTo 20 = 1048576 ∧ twoTo 15 = 32768 ∧ twoTo 10 = 1024 ∧
      twoTo 5 = 32 ∧ twoTo 0 = 1 := by
    decide
  simp only [List.map_cons, List.map_nil, List.foldl_cons, List.foldl_nil, powers]
  omega

theorem residue_lt (variant : Variant) : variant.residue < 2 ^ 30 := by
  cases variant <;> decide

theorem verify_checksum (visible : ∀ v ∈ expandPrefix readable, v < 32) (small : ∀ v ∈ data, v < 32) :
    verify variant readable (data ++ checksum variant readable data) = true := by
  have zeros : ∀ v ∈ List.replicate 6 0, v < 32 := by decide
  have all : ∀ v ∈ expandPrefix readable ++ data ++ List.replicate 6 0, v < 32 :=
    List.forall_mem_append.mpr ⟨List.forall_mem_append.mpr ⟨visible, small⟩, zeros⟩
  have bound : polymod (expandPrefix readable ++ data ++ List.replicate 6 0) ^^^ variant.residue <
      2 ^ 30 :=
    Nat.xor_lt_two_pow (foldl_polyStep_lt all (by decide)) (residue_lt variant)
  have digits : (checksum variant readable data).foldl polyStep 0 =
      polymod (expandPrefix readable ++ data ++ List.replicate 6 0) ^^^ variant.residue := by
    rw [foldl_polyStep_of_lt 0 checksum_lt (Nat.le_refl 6) (by decide)]
    exact foldl_digits bound
  have parts := foldl_polyStep_xor (checksum variant readable data)
    (polymod (expandPrefix readable ++ data)) 0
  rw [Nat.xor_zero, length_checksum, digits, ← polymod_append, ← polymod_append, List.append_assoc]
    at parts
  -- Both parts hold the remainder for zeros, which leaves the constant of the checksum.
  rw [verify, parts, ← Nat.xor_assoc, Nat.xor_self, Nat.zero_xor]
  exact beq_self_eq_true _

end

end TaxLedger.Bech32
