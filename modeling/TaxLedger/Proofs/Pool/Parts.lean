import TaxLedger.Proofs.Decimal.Quotient
import TaxLedger.Proofs.Pool.Shares

/-!
Shares divided among tokens. The equal parts of a division are rounded at a hundred digits, and the last
part takes what is left: no part is negative, none of the shares is lost, and below `10 ^ 78` shares every
part is the exact integer part (`shares_split_exactly`).
-/

namespace TaxLedger.Pool

/-- A division of shares into `n` parts of which none is negative and that add up to the shares. A number
of shares with less than seventy-nine digits is divided as integers are, the remainder in the last
part. -/
structure SplitExactly (shares : Coin) (n : Nat) (parts : List Coin) : Prop where
  length : parts.length = n
  part : ∀ p ∈ parts, p.denom = shares.denom ∧ p.IsNatural
  sum : (parts.map Coin.units).sum = shares.units
  small : shares.units < 10 ^ 78 → parts.map Coin.units =
    List.replicate (n - 1) (shares.units / n) ++ [shares.units / n + shares.units % n]

/-! ### Equal parts -/

theorem equalPart_small {shares : Coin} {n : Nat} (natural : shares.IsNatural) (some : 1 ≤ n)
    (word : n < 2 ^ 64) (small : shares.units < 10 ^ 78) :
    equalPart shares n = shares.units / n := by
  obtain ⟨amount, total⟩ := Coin.isNatural_iff.mp natural
  rw [Coin.units, total] at small ⊢
  rw [equalPart, total]
  rcases Decimal.withScale_divide some word with exact | ⟨_, large⟩
  · rw [exact]
    exact Int.natCast_ediv amount n
  · have few : (amount : Int) < 10 ^ 78 := small
    have below := Nat.div_le_self amount n
    omega

/-- Rounding up takes no more from the last part than it has. -/
theorem equalPart_bounds {shares : Coin} {n : Nat} (natural : shares.IsNatural) (some : 1 ≤ n)
    (word : n < 2 ^ 64) :
    0 ≤ equalPart shares n ∧ equalPart shares n * (n - 1 : Nat) ≤ shares.units := by
  obtain ⟨amount, total⟩ := Coin.isNatural_iff.mp natural
  obtain ⟨m, rfl⟩ := Nat.exists_eq_add_of_le' some
  have exactly : amount / (m + 1) * (m + 1) ≤ amount := Nat.div_mul_le_self amount (m + 1)
  rw [equalPart, Coin.units, total, Nat.add_sub_cancel]
  rcases Decimal.withScale_divide some word with exact | ⟨next, large⟩
  · rw [exact]
    refine ⟨Int.natCast_nonneg _, ?_⟩
    change ((amount / (m + 1) : Nat) : Int) * (m : Int) ≤ amount
    norm_cast
    rw [Nat.mul_succ] at exactly
    exact Nat.le_trans (Nat.le_add_right _ _) exactly
  · rw [next]
    refine ⟨Int.natCast_nonneg _, ?_⟩
    change ((amount / (m + 1) + 1 : Nat) : Int) * (m : Int) ≤ amount
    norm_cast
    have room : m ≤ amount / (m + 1) := by omega
    calc (amount / (m + 1) + 1) * m = amount / (m + 1) * m + m := Nat.succ_mul _ _
      _ ≤ amount / (m + 1) * m + amount / (m + 1) := Nat.add_le_add_left room _
      _ = amount / (m + 1) * (m + 1) := (Nat.mul_succ _ _).symm
      _ ≤ amount := exactly

theorem splitShares_exact {shares : Coin} {n : Nat} (natural : shares.IsNatural) (some : 1 ≤ n)
    (word : n < 2 ^ 64) : SplitExactly shares n (splitShares shares n) where
  length := length_splitShares shares n
  part p member := by
    refine ⟨denom_of_mem_splitShares member, isWhole_of_mem_splitShares natural.1 member, ?_⟩
    obtain ⟨nonnegative, enough⟩ := equalPart_bounds natural some word
    rw [splitShares_eq natural.1 some] at member
    rcases List.mem_append.mp member with equal | last
    · rw [List.eq_of_mem_replicate equal]
      exact nonnegative
    · rw [List.mem_singleton.mp last]
      exact Int.sub_nonneg.mpr enough
  sum := sum_splitShares natural.1 some
  small below := by
    rw [splitShares_eq natural.1 some, equalPart_small natural some word below]
    have remainder : shares.units - shares.units / n * (n - 1 : Nat) =
        shares.units / n + shares.units % n := by
      have division := Int.mul_ediv_add_emod shares.units n
      obtain ⟨m, rfl⟩ := Nat.exists_eq_add_of_le' some
      rw [Nat.cast_add_one, Int.add_mul, Int.one_mul] at division
      rw [Nat.cast_add_one, Nat.add_sub_cancel, Int.mul_comm]
      omega
    rw [remainder, List.map_append, List.map_replicate, List.map_singleton]
    rfl

/-! ### Parts and tokens -/

/-- Shares of any number are divided exactly into any number of parts, and the movements of a deposit or
of a withdrawal pair each token, in order, with its part. -/
theorem shares_split_exactly {shares : Coin} (natural : shares.IsNatural) :
    (∀ n, 1 ≤ n → n < 2 ^ 64 → SplitExactly shares n (splitShares shares n)) ∧
      ∀ (account : String) (tokens : List Coin),
        (depositLegs account tokens shares).length = tokens.length ∧
        (withdrawalLegs account shares tokens).length = tokens.length ∧
        ∀ (i : Nat) (token : Coin), tokens[i]? = some token →
          ∃ part, (splitShares shares tokens.length)[i]? = some part ∧
            (depositLegs account tokens shares)[i]? = some (Movement.swap account token part) ∧
            (withdrawalLegs account shares tokens)[i]? = some (Movement.swap account part token) := by
  refine ⟨fun n some word => splitShares_exact natural some word, fun account tokens => ?_⟩
  have level := length_splitShares shares tokens.length
  refine ⟨by simp [depositLegs, level], by simp [withdrawalLegs, level], fun i token found => ?_⟩
  have inside : i < (splitShares shares tokens.length).length := by
    rw [level]
    exact (List.getElem?_eq_some_iff.mp found).1
  have part := List.getElem?_eq_getElem inside
  refine ⟨_, part, ?_, ?_⟩
  · rw [depositLegs, List.getElem?_zipWith, part, found]
  · rw [withdrawalLegs, List.getElem?_zipWith, part, found]

/-- Shares whose third part has a hundred and two digits. -/
def hugeShares : Coin := ⟨.ofInt (3 * 10 ^ 101 + 2), "gamm/pool/1"⟩

/-- The first two parts are rounded up, and the last one makes up for both. -/
theorem shares_split_exactly_of_huge :
    hugeShares.IsNatural ∧ SplitExactly hugeShares 3 (splitShares hugeShares 3) ∧
      (splitShares hugeShares 3).map Coin.units = [10 ^ 101 + 1, 10 ^ 101 + 1, 10 ^ 101] := by
  have natural : hugeShares.IsNatural := by decide
  exact ⟨natural, (shares_split_exactly natural).1 3 (by decide) (by decide), by decide +kernel⟩

end TaxLedger.Pool
