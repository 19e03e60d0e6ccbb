import TaxLedger.BlockEvent.Record
import TaxLedger.Proofs.Coin.Whole
import TaxLedger.Proofs.Text.Digits

/-!
The texts whose digests name block events. Account, denomination and source can be read back from the
text of an event, but not where the height ends and the amount begins: that two texts are the same
says of height and amount only that their digits run together alike (`preimage_eq_iff`). Different
events may therefore share a name (`preimage_shared`), but not while all heights have equally many
digits (`eq_of_preimage_eq`).
-/

namespace TaxLedger.BlockEvent

/-! ### Parts of a text -/

theorem length_code (source : Source) : (toString source.code).toList.length = 1 := by
  cases source <;> rfl

theorem ofCode?_code (source : Source) : Source.ofCode? source.code = some source := by
  cases source <;> rfl

theorem code_inj {source source' : Source}
    (same : (toString source.code).toList = (toString source'.code).toList) : source = source' := by
  have code : source.code = source'.code := by
    have read := Text.ofDigitsFrom_toDigits source.code
    rw [← Nat.toList_repr, ← Nat.toString_eq_repr, same, Nat.toString_eq_repr, Nat.toList_repr,
      Text.ofDigitsFrom_toDigits] at read
    exact read.symm
  have found := ofCode?_code source
  rw [code, ofCode?_code] at found
  exact (Option.some.inj found).symm

theorem isLetter_of_isDigit {c : Char} (digit : Text.isDigit c = true) : Coin.isLetter c = false := by
  have high : c ≤ '9' := of_decide_eq_true (Bool.and_eq_true_iff.mp digit).2
  have lower : ¬('a' ≤ c) := fun low => absurd (Char.le_trans low high) (by decide)
  have upper : ¬('A' ≤ c) := fun low => absurd (Char.le_trans low high) (by decide)
  simp [Coin.isLetter, lower, upper]

/-- A denomination starts with a letter, which no digit is. -/
theorem isDenom_of_isDigit {c : Char} {rest : List Char} (digit : Text.isDigit c = true) :
    Coin.isDenom (c :: rest) = false := by
  rw [Coin.isDenom, isLetter_of_isDigit digit]
  rfl

/-- Digits end where the denomination behind them starts. -/
theorem append_denom_inj {digits digits' denom denom' : List Char}
    (all : ∀ c ∈ digits, Text.isDigit c = true) (all' : ∀ c ∈ digits', Text.isDigit c = true)
    (valid : Coin.isDenom denom = true) (valid' : Coin.isDenom denom' = true)
    (same : digits ++ denom = digits' ++ denom') : digits = digits' ∧ denom = denom' := by
  induction digits generalizing digits' with
  | nil =>
    cases digits' with
    | nil => exact ⟨rfl, same⟩
    | cons c rest =>
      rw [List.nil_append] at same
      rw [same, List.cons_append, isDenom_of_isDigit (all' c List.mem_cons_self)] at valid
      cases valid
  | cons c rest ih =>
    cases digits' with
    | nil =>
      rw [List.nil_append] at same
      rw [← same, List.cons_append, isDenom_of_isDigit (all c List.mem_cons_self)] at valid'
      cases valid'
    | cons c' rest' =>
      obtain ⟨rfl, later⟩ := List.cons.inj same
      obtain ⟨tail, denom⟩ := ih (fun x member => all x (List.mem_cons_of_mem _ member))
        (fun x member => all' x (List.mem_cons_of_mem _ member)) later
      exact ⟨by rw [tail], denom⟩

def digits (height amount : Int) : String := toString height ++ toString amount

theorem isDigit_of_mem_digits {height amount : Int} (heights : 0 ≤ height) (amounts : 0 ≤ amount)
    {c : Char} (member : c ∈ (digits height amount).toList) : Text.isDigit c = true := by
  rw [digits, String.toList_append, Text.toList_toString heights,
    Text.toList_toString amounts] at member
  rcases List.mem_append.mp member with front | back
  · exact Text.isDigit_of_mem_toDigits front
  · exact Text.isDigit_of_mem_toDigits back

theorem toList_preimage {r : Record} (whole : r.coin.IsWhole) (height : Int) :
    (r.preimage height).toList =
      r.account.toList ++ ((digits height r.coin.units).toList ++ r.coin.denom.toList ++
        (toString r.source.code).toList) := by
  rw [Record.preimage, Decimal.IsWhole.render whole]
  simp [preimageOf, digits, Coin.units, String.toList_append]

/-! ### Records with the same text -/

section
variable {r r' : Record} {height height' : Int}

/-- What the text of an event tells of it. -/
theorem parts_of_preimage_eq (heights : 0 ≤ height ∧ 0 ≤ height')
    (amounts : r.coin.IsNatural ∧ r'.coin.IsNatural)
    (denoms : Coin.isDenom r.coin.denom.toList = true ∧ Coin.isDenom r'.coin.denom.toList = true)
    (accounts : r.account.length = r'.account.length)
    (same : r.preimage height = r'.preimage height') :
    r.account = r'.account ∧ r.coin.denom = r'.coin.denom ∧ r.source = r'.source ∧
      digits height r.coin.units = digits height' r'.coin.units := by
  have texts := congrArg String.toList same
  rw [toList_preimage amounts.1.1, toList_preimage amounts.2.1] at texts
  -- The account is cut off by its length, the source by that of its code, the denomination by its
  -- first letter; nothing separates the digits that remain.
  obtain ⟨account, behind⟩ := List.append_inj texts accounts
  obtain ⟨front, code⟩ := List.append_inj' behind (by rw [length_code, length_code])
  obtain ⟨run, denom⟩ := append_denom_inj
    (fun _ member => isDigit_of_mem_digits heights.1 amounts.1.2 member)
    (fun _ member => isDigit_of_mem_digits heights.2 amounts.2.2 member) denoms.1 denoms.2 front
  exact ⟨String.toList_inj.mp account, String.toList_inj.mp denom, code_inj code,
    String.toList_inj.mp run⟩

/-- Two events have the same text exactly if they agree in account, denomination and source and the
digits of height and amount run together alike. -/
theorem preimage_eq_iff (heights : 0 ≤ height ∧ 0 ≤ height')
    (amounts : r.coin.IsNatural ∧ r'.coin.IsNatural)
    (denoms : Coin.isDenom r.coin.denom.toList = true ∧ Coin.isDenom r'.coin.denom.toList = true)
    (accounts : r.account.length = r'.account.length) :
    r.preimage height = r'.preimage height' ↔
      r.account = r'.account ∧ r.coin.denom = r'.coin.denom ∧ r.source = r'.source ∧
        digits height r.coin.units = digits height' r'.coin.units := by
  constructor
  · exact parts_of_preimage_eq heights amounts denoms accounts
  · rintro ⟨account, denom, source, run⟩
    apply String.toList_inj.mp
    rw [toList_preimage amounts.1.1, toList_preimage amounts.2.1, account, denom, source, run]

def reward (amount : Int) : Record := ⟨.rewardDistribution, "osmo1r", ⟨amount, "uosmo"⟩⟩

theorem preimage_eq_iff_of_rewards :
    (reward 15).preimage 1000000 = (reward 5).preimage 10000001 ↔
      (reward 15).account = (reward 5).account ∧ (reward 15).coin.denom = (reward 5).coin.denom ∧
        (reward 15).source = (reward 5).source ∧ digits 1000000 15 = digits 10000001 5 :=
  preimage_eq_iff ⟨by decide, by decide⟩ ⟨⟨rfl, by decide⟩, ⟨rfl, by decide⟩⟩ ⟨by decide, by decide⟩ rfl

/-- The first digit of an amount may as well be the last of a height: two rewards of different amounts
at different heights have one name. -/
theorem preimage_shared :
    (reward 15).preimage 1000000 = (reward 5).preimage 10000001 ∧
      (reward 15).hash 1000000 = (reward 5).hash 10000001 ∧
      (1000000 : Int) ≠ 10000001 ∧ reward 15 ≠ reward 5 := by
  have text : (reward 15).preimage 1000000 = (reward 5).preimage 10000001 := by decide
  exact ⟨text, congrArg digestName text, by decide, by decide⟩

/-- Heights of equally many digits end where the amounts begin, so that no two events share a text. -/
theorem eq_of_preimage_eq (heights : 0 ≤ height ∧ 0 ≤ height')
    (amounts : r.coin.IsNatural ∧ r'.coin.IsNatural)
    (denoms : Coin.isDenom r.coin.denom.toList = true ∧ Coin.isDenom r'.coin.denom.toList = true)
    (accounts : r.account.length = r'.account.length)
    (level : (toString height).length = (toString height').length)
    (same : r.preimage height = r'.preimage height') : height = height' ∧ r = r' := by
  obtain ⟨account, denom, source, run⟩ := parts_of_preimage_eq heights amounts denoms accounts same
  have texts := congrArg String.toList run
  rw [digits, digits, String.toList_append, String.toList_append] at texts
  obtain ⟨front, back⟩ := List.append_inj texts level
  have amount := Text.toString_inj (String.toList_inj.mp back)
  refine ⟨Text.toString_inj (String.toList_inj.mp front), ?_⟩
  have coin : r.coin = r'.coin := by rw [amounts.1.1.eq_units, amounts.2.1.eq_units, amount, denom]
  obtain ⟨source, account, coin⟩ := r
  obtain ⟨source', account', coin'⟩ := r'
  dsimp only at *
  subst_vars
  rfl

end

end TaxLedger.BlockEvent
