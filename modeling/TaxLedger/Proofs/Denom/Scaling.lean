import Mathlib.Tactic.Ring
import TaxLedger.Proofs.Decimal.Value
import TaxLedger.Proofs.Denom.Display

/-!
Conversion as exact scaling. What is known of a denomination decides its symbol and how many places the
point moves; every amount is shown as exactly the number with the point that many places to the left
(`convert_scales`).
-/

namespace TaxLedger.Denom

theorem toRat_apply {places : Nat} {d : Display} (counted : d.exponent = places) (amount : Decimal) :
    (d.apply amount).value.toRat = amount.toRat / 10 ^ places := by
  have power : (10 : ℚ) ^ (-(amount.scale + places)) = 10 ^ (-amount.scale) / 10 ^ places := by
    rw [neg_add, zpow_add₀ (by norm_num), zpow_neg 10 (places : ℤ), zpow_natCast, div_eq_mul_inv]
  rw [Display.apply, Decimal.toRat_normalized, Decimal.toRat, Decimal.toRat, counted, power]
  ring

/-- A denomination that is neither a pool's share nor in the catalog may have no conversion for any
amount. Every other one has one symbol and one number of places, with which every amount is shown:
exactly, and without zeros at the end of its digits. -/
theorem convert_scales (k : Known) (denom : String) :
    (denom.startsWith poolShareStart = false ∧ k.catalog.find? (lookupName denom) = none ∧
        ∀ amount, k.convert amount denom = .error ⟨denom⟩) ∨
      ∃ (places : Nat) (symbol : String), ∀ amount, ∃ value,
        k.convert amount denom = .ok ⟨value, symbol⟩ ∧ value.toRat = amount.toRat / 10 ^ places ∧
          value.IsNormal := by
  cases found : k.display? denom with
  | none =>
    obtain ⟨share, unlisted, _⟩ := Known.display?_eq_none_iff.mp found
    exact .inl ⟨share, unlisted, fun amount => Known.convert_of_none found⟩
  | some d =>
    obtain ⟨places, counted⟩ := Int.eq_ofNat_of_zero_le (Known.display?_exponent found)
    refine .inr ⟨places, d.symbol, fun amount => ⟨(d.apply amount).value, ?_, ?_, ?_⟩⟩
    · exact Known.convert_ok_iff.mpr ⟨d, found, rfl⟩
    · exact toRat_apply counted amount
    · exact Decimal.isNormal_normalized _

end TaxLedger.Denom
