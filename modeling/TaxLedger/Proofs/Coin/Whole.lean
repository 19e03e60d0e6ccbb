import TaxLedger.Event.Flow
import TaxLedger.Message.Decoder
import TaxLedger.Proofs.Result

/-!
Whole coins. A coin that is read, from a log or from a body, has no digits behind the point, and neither
have sums, differences and products of whole amounts. A movement of whole coins is well formed: each of its
sides has an amount exactly if it has a denomination.
-/

namespace TaxLedger

/-! ### Amounts -/

namespace Decimal
variable {a b : Decimal}

def IsWhole (d : Decimal) : Prop := d.scale = 0

theorem isWhole_ofInt (n : Int) : (ofInt n).IsWhole := rfl

theorem IsWhole.eq_ofInt (whole : a.IsWhole) : a = ofInt a.coefficient := by
  obtain ⟨coefficient, scale⟩ := a
  exact congrArg (Decimal.mk coefficient) whole

theorem isWhole_withScale (d : Decimal) : (d.withScale 0).IsWhole := by
  rw [withScale]
  split
  · rfl
  · split <;> rfl

@[simp] theorem withScale_ofInt (n : Int) : (ofInt n).withScale 0 = ofInt n := by
  rw [withScale]
  split
  · rename_i zero
    exact congrArg ofInt zero.symm
  · exact congrArg ofInt (Int.mul_one n)

theorem ofInt_add (m n : Int) : ofInt m + ofInt n = ofInt (m + n) := by
  change Decimal.mk (((ofInt m).withScale 0).coefficient + ((ofInt n).withScale 0).coefficient) 0 = _
  rw [withScale_ofInt, withScale_ofInt]
  rfl

theorem ofInt_sub (m n : Int) : ofInt m - ofInt n = ofInt (m - n) := by
  change Decimal.mk (((ofInt m).withScale 0).coefficient - ((ofInt n).withScale 0).coefficient) 0 = _
  rw [withScale_ofInt, withScale_ofInt]
  rfl

theorem ofInt_mul (m n : Int) : ofInt m * ofInt n = ofInt (m * n) := rfl

theorem render_ofInt (n : Int) : (ofInt n).render = toString n := by
  have magnitude : renderMagnitude n.natAbs 0 = Nat.toDigits 10 n.natAbs := by
    rw [renderMagnitude]
    split
    · rename_i zero
      rw [zero]
      rfl
    · rw [if_neg (by decide), if_neg (by decide)]
      exact (List.append_nil _).trans Nat.toList_repr
  apply String.toList_injective
  rw [render, String.toList_ofList]
  change (if n < 0 then '-' :: renderMagnitude n.natAbs 0 else renderMagnitude n.natAbs 0) = _
  rw [magnitude]
  cases n with
  | ofNat k => exact (if_neg (Int.not_lt.mpr (Int.natCast_nonneg k))).trans Nat.toList_repr.symm
  | negSucc k =>
    rw [if_pos (Int.negSucc_lt_zero k)]
    change _ = ("-" ++ (k + 1).repr).toList
    rw [String.toList_append, Nat.toList_repr]
    rfl

theorem IsWhole.render (whole : a.IsWhole) : a.render = toString a.coefficient := by
  rw [← render_ofInt, ← whole.eq_ofInt]

theorem IsWhole.add (first : a.IsWhole) (second : b.IsWhole) : (a + b).IsWhole := by
  rw [first.eq_ofInt, second.eq_ofInt, ofInt_add]
  exact isWhole_ofInt _

theorem IsWhole.sub (first : a.IsWhole) (second : b.IsWhole) : (a - b).IsWhole := by
  rw [first.eq_ofInt, second.eq_ofInt, ofInt_sub]
  exact isWhole_ofInt _

theorem isWhole_foldl_add {amounts : List Decimal} (start : a.IsWhole)
    (all : ∀ b ∈ amounts, b.IsWhole) : (amounts.foldl (· + ·) a).IsWhole := by
  induction amounts generalizing a with
  | nil => exact start
  | cons b rest ih =>
    obtain ⟨first, others⟩ := List.forall_mem_cons.mp all
    exact ih (start.add first) others

end Decimal

/-! ### Coins -/

namespace Coin
variable {s : String} {c : Coin} {coins : List Coin}

def IsWhole (c : Coin) : Prop := c.amount.IsWhole

def units (c : Coin) : Int := c.amount.coefficient

theorem IsWhole.eq_units (whole : c.IsWhole) : c = ⟨c.units, c.denom⟩ := by
  rw [units, ← Decimal.IsWhole.eq_ofInt whole]

def IsNatural (c : Coin) : Prop := c.IsWhole ∧ 0 ≤ c.units

instance (c : Coin) : Decidable c.IsNatural :=
  inferInstanceAs (Decidable (c.amount.scale = 0 ∧ 0 ≤ c.amount.coefficient))

theorem isNatural_iff : c.IsNatural ↔ ∃ n : Nat, c.amount = .ofInt n := by
  constructor
  · rintro ⟨whole, natural⟩
    obtain ⟨n, units⟩ := Int.eq_ofNat_of_zero_le natural
    exact ⟨n, units ▸ Decimal.IsWhole.eq_ofInt whole⟩
  · rintro ⟨n, amount⟩
    rw [IsNatural, IsWhole, units, amount]
    exact ⟨rfl, Int.natCast_nonneg n⟩

theorem isWhole_of_parseAmount {amount : Decimal} (success : parseAmount s = .ok amount) :
    amount.IsWhole := by
  unfold parseAmount at success
  dsimp only at success
  split at success
  · cases success
    exact Decimal.isWhole_ofInt 0
  · split at success
    · cases success
      exact Decimal.isWhole_withScale _
    · cases success

theorem isWhole_of_parse (success : parse s = .ok c) : c.IsWhole := by
  unfold parse at success
  dsimp only at success
  split at success
  · cases success
  · obtain ⟨amount, read, rfl⟩ := map_ok success
    exact isWhole_of_parseAmount read

theorem isWhole_of_parseList (success : parseList s = .ok coins) : ∀ c ∈ coins, c.IsWhole := by
  intro c member
  obtain ⟨text, _, read⟩ := mapM_ok success c member
  exact isWhole_of_parse read

theorem isWhole_of_lists {texts : List String} {lists : List (List Coin)}
    (success : texts.mapM parseList = .ok lists) : ∀ c ∈ lists.flatten, c.IsWhole := by
  intro c member
  obtain ⟨list, among, inside⟩ := List.mem_flatten.mp member
  obtain ⟨text, _, read⟩ := mapM_ok success list among
  exact isWhole_of_parseList read c inside

end Coin

theorem CoinText.isWhole_of_toCoin {t : CoinText} {c : Coin} (success : t.toCoin = .ok c) :
    c.IsWhole := by
  obtain ⟨amount, read, rfl⟩ := map_ok success
  exact Coin.isWhole_of_parseAmount read

theorem Message.isWhole_of_coinsOfTexts {texts : List CoinText} {coins : List Coin}
    (success : coinsOfTexts texts = .ok coins) : ∀ c ∈ coins, c.IsWhole := by
  intro c member
  obtain ⟨text, _, read⟩ := mapM_ok success c member
  exact CoinText.isWhole_of_toCoin read

theorem isWhole_of_coinsFollowing {partyKey party : String} {events : List Event} {coins : List Coin}
    (success : coinsFollowing partyKey party events = .ok coins) : ∀ c ∈ coins, c.IsWhole := by
  obtain ⟨lists, read, success⟩ := bind_ok success
  cases success
  exact Coin.isWhole_of_lists read

/-! ### Movements -/

/-- A movement whose sides are complete, of which there is at least one, with whole amounts. -/
structure Movement.WellFormed (m : Movement) : Prop where
  sent : m.amountSent.isSome = m.denomSent.isSome
  received : m.amountReceived.isSome = m.denomReceived.isSome
  moves : m.amountSent.isSome = true ∨ m.amountReceived.isSome = true
  wholeSent : ∀ amount ∈ m.amountSent, amount.IsWhole
  wholeReceived : ∀ amount ∈ m.amountReceived, amount.IsWhole

namespace Movement
variable {coin given gotten : Coin}

theorem wellFormed_swap (account : String) (paid : given.IsWhole) (gained : gotten.IsWhole) :
    (swap account given gotten).WellFormed where
  sent := rfl
  received := rfl
  moves := .inl rfl
  wholeSent _ same := Option.some.inj same ▸ paid
  wholeReceived _ same := Option.some.inj same ▸ gained

theorem wellFormed_transfer (sender receiver : String) (whole : coin.IsWhole) :
    (transfer sender receiver coin).WellFormed where
  sent := rfl
  received := rfl
  moves := .inl rfl
  wholeSent _ same := Option.some.inj same ▸ whole
  wholeReceived _ same := Option.some.inj same ▸ whole

theorem wellFormed_receipt (receiver : String) (whole : coin.IsWhole) :
    (receipt receiver coin).WellFormed where
  sent := rfl
  received := rfl
  moves := .inr rfl
  wholeSent := nofun
  wholeReceived _ same := Option.some.inj same ▸ whole

theorem wellFormed_payment (sender : String) (whole : coin.IsWhole) :
    (payment sender coin).WellFormed where
  sent := rfl
  received := rfl
  moves := .inl rfl
  wholeSent _ same := Option.some.inj same ▸ whole
  wholeReceived := nofun

end Movement

end TaxLedger
