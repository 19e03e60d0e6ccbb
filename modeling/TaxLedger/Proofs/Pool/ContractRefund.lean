import TaxLedger.Pool.Routed
import TaxLedger.Proofs.Coin.List
import TaxLedger.Proofs.Event.Merged

/-!
Swaps that a contract carries out. The input is what the sender paid to the contract less the first refund:
it is what was paid less all that came back exactly if every other refund is of nothing
(`contractInput_nets_iff`), and a second refund is charged to the sender (`second_refund_charged`).
-/

namespace TaxLedger.Pool.Routed

def Goes (giver taker : String) (t : Transfer) : Prop := t.sender = giver ∧ t.recipient = taker

instance (giver taker : String) (t : Transfer) : Decidable (Goes giver taker t) :=
  inferInstanceAs (Decidable (_ ∧ _))

def carried? (denom giver taker : String) (t : Transfer) : Option Coin :=
  match Coin.parse t.amount with
  | .ok coin => if coin.denom = denom ∧ Goes giver taker t then some coin else none
  | .error _ => none

def coinsCarried (denom giver taker : String) (transfers : List Transfer) : List Coin :=
  transfers.filterMap (carried? denom giver taker)

def transfersIn (entry : LogEntry) : List Transfer :=
  (entry.ofKind "transfer").flatMap Transfer.listOf

/-- The transfer events have groups, each of which carries a single coin. -/
def SingleCoins (entry : LogEntry) : Prop :=
  Transfer.Readable (entry.ofKind "transfer") ∧
    ∀ t ∈ transfersIn entry, ∃ coin, Coin.parse t.amount = .ok coin

def amountsMoved (denom giver taker : String) (entry : LogEntry) : List Int :=
  (coinsCarried denom giver taker (transfersIn entry)).map Coin.units

/-- The amounts that came back and are not taken off: all behind the first one, and that of a sender who pays
itself. -/
def notTakenOff (denom contract sender : String) (entry : LogEntry) : List Int :=
  if sender = contract then amountsMoved denom contract sender entry
  else (amountsMoved denom contract sender entry).tail

/-! ### One transfer after the other -/

section
variable {denom giver taker : String} {t : Transfer} {coin : Coin}

theorem carried?_eq_some_iff :
    carried? denom giver taker t = some coin ↔
      Coin.parse t.amount = .ok coin ∧ coin.denom = denom ∧ Goes giver taker t := by
  unfold carried?
  cases Coin.parse t.amount with
  | error problem => exact ⟨nofun, nofun⟩
  | ok own =>
    simp only [Option.ite_none_right_eq_some, Option.some.injEq, Except.ok.injEq]
    constructor
    · rintro ⟨wanted, rfl⟩
      exact ⟨rfl, wanted⟩
    · rintro ⟨rfl, wanted⟩
      exact ⟨wanted, rfl⟩

theorem isNatural_of_carried {transfers : List Transfer}
    (member : coin ∈ coinsCarried denom giver taker transfers) : coin.IsNatural := by
  obtain ⟨t, _, carried⟩ := List.mem_filterMap.mp member
  exact Coin.isNatural_of_parse (carried?_eq_some_iff.mp carried).1

end

namespace ContractFlow
variable {sender contract denom : String} {flow final : ContractFlow} {t : Transfer}
  {transfers : List Transfer}

def noting (sender contract denom : String) (flow : ContractFlow) (t : Transfer) : ContractFlow :=
  match flow.paid, carried? denom sender contract t with
  | none, some coin => { flow with paid := some coin }
  | _, _ => { flow with refunded := flow.refunded.or (carried? denom contract sender t) }

theorem add_eq (sender contract denom : String) (flow : ContractFlow) (t : Transfer) :
    add sender contract denom flow t =
      (Coin.parse t.amount).map fun _ => noting sender contract denom flow t := by
  have goes (open' : Bool) (giver taker : String) :
      (open' && decide (t.sender = giver) && decide (t.recipient = taker)) =
        (open' && decide (Goes giver taker t)) := by
    rw [Bool.eq_iff_iff]
    simp only [Bool.and_eq_true, decide_eq_true_eq, and_assoc]
    exact Iff.rfl
  unfold add noting carried?
  simp only [goes]
  cases Coin.parse t.amount with
  | error problem => rfl
  | ok coin =>
    obtain ⟨paid, refunded⟩ := flow
    by_cases own : coin.denom = denom
    · by_cases out : Goes sender contract t
      · by_cases back : Goes contract sender t
        all_goals
          cases paid <;> cases refunded <;>
            simp [own, out, back, bind, Except.bind, pure, Except.pure, Except.map]
      · by_cases back : Goes contract sender t
        all_goals
          cases paid <;> cases refunded <;>
            simp [own, out, back, bind, Except.bind, pure, Except.pure, Except.map]
    · cases paid <;> simp [own, bind, Except.bind, pure, Except.pure, Except.map]

theorem foldlM_add_iff :
    transfers.foldlM (add sender contract denom) flow = .ok final ↔
      (∀ t ∈ transfers, ∃ coin, Coin.parse t.amount = .ok coin) ∧
        final = transfers.foldl (noting sender contract denom) flow := by
  induction transfers generalizing flow with
  | nil =>
    constructor
    · intro done
      cases done
      exact ⟨List.forall_mem_nil _, rfl⟩
    · rintro ⟨_, rfl⟩
      rfl
  | cons t rest ih =>
    rw [List.foldlM_cons, List.foldl_cons, List.forall_mem_cons, and_assoc, add_eq]
    cases Coin.parse t.amount with
    | error problem => exact ⟨nofun, nofun⟩
    | ok coin =>
      have first : ∃ own, (.ok coin : Except DecodeError Coin) = .ok own := ⟨coin, rfl⟩
      exact ih.trans (and_iff_right first).symm

theorem noting_payment {coin : Coin} (unpaid : flow.paid = none)
    (carried : carried? denom sender contract t = some coin) :
    noting sender contract denom flow t = { flow with paid := some coin } := by
  unfold noting
  rw [unpaid, carried]

theorem noting_other (other : flow.paid ≠ none ∨ carried? denom sender contract t = none) :
    noting sender contract denom flow t =
      { flow with refunded := flow.refunded.or (carried? denom contract sender t) } := by
  unfold noting
  rcases other with paid | silent
  · cases known : flow.paid with
    | none => exact absurd known paid
    | some coin => rfl
  · rw [silent]
    cases flow.paid with
    | none => rfl
    | some coin => rfl

/-- The first payment counts. -/
theorem foldl_noting_paid (transfers : List Transfer) (flow : ContractFlow) :
    (transfers.foldl (noting sender contract denom) flow).paid =
      flow.paid.or (coinsCarried denom sender contract transfers).head? := by
  induction transfers generalizing flow with
  | nil => simp [coinsCarried]
  | cons t rest ih =>
    rw [List.foldl_cons, ih]
    cases paid : flow.paid with
    | some coin => rw [noting_other (.inl (by simp [paid])), paid, Option.some_or, Option.some_or]
    | none =>
      cases carried : carried? denom sender contract t with
      | none => simp [noting_other (.inr carried), paid, coinsCarried, carried]
      | some coin => simp [noting_payment paid carried, coinsCarried, carried]

/-- The first refund counts, once it cannot be the payment. -/
theorem foldl_noting_refunded (transfers : List Transfer) {flow : ContractFlow}
    (apart : sender ≠ contract ∨ flow.paid ≠ none) :
    (transfers.foldl (noting sender contract denom) flow).refunded =
      flow.refunded.or (coinsCarried denom contract sender transfers).head? := by
  induction transfers generalizing flow with
  | nil => simp [coinsCarried]
  | cons t rest ih =>
    rw [List.foldl_cons]
    by_cases pays : flow.paid = none ∧ carried? denom sender contract t ≠ none
    · obtain ⟨unpaid, carried⟩ := pays
      obtain ⟨coin, carried⟩ := Option.ne_none_iff_exists'.mp carried
      have strangers : sender ≠ contract := apart.resolve_right (not_not_intro unpaid)
      -- What goes to the contract does not go back from it.
      have back : carried? denom contract sender t = none := by
        by_contra found
        obtain ⟨other, found⟩ := Option.ne_none_iff_exists'.mp found
        have out := (carried?_eq_some_iff.mp carried).2.2
        have home := (carried?_eq_some_iff.mp found).2.2
        exact strangers (out.1.symm.trans home.1)
      rw [noting_payment unpaid carried, ih (.inl strangers)]
      simp [coinsCarried, back]
    · have other : flow.paid ≠ none ∨ carried? denom sender contract t = none :=
        (not_and_or.mp pays).imp id not_not.mp
      have later := @ih { flow with refunded := flow.refunded.or (carried? denom contract sender t) } apart
      rw [noting_other other, later]
      cases back : carried? denom contract sender t with
      | none => simp [coinsCarried, back]
      | some coin => simp [coinsCarried, back]

/-- A single payment of a sender to itself is no refund. -/
theorem foldl_noting_alone {coin : Coin}
    (once : coinsCarried denom sender sender transfers = [coin]) :
    (transfers.foldl (noting sender sender denom) {}).refunded = none := by
  induction transfers with
  | nil => rfl
  | cons t rest ih =>
    rw [List.foldl_cons]
    cases carried : carried? denom sender sender t with
    | none =>
      rw [noting_other (.inr carried), carried]
      apply ih
      simpa [coinsCarried, carried] using once
    | some first =>
      have last : coinsCarried denom sender sender rest = [] := by
        have split : first :: coinsCarried denom sender sender rest = [coin] := by
          simpa [coinsCarried, carried] using once
        exact (List.cons.inj split).2
      rw [noting_payment rfl carried, foldl_noting_refunded rest (.inr (by simp)), last]
      rfl

end ContractFlow

/-! ### All transfers of a log -/

theorem readable_of_foldAll {α : Type} {add : α → Transfer → Except DecodeError α} {start final : α}
    {events : List Event} (success : Transfer.foldAll add start events = .ok final) :
    Transfer.Readable events := by
  induction events generalizing start with
  | nil => exact List.forall_mem_nil _
  | cons e rest ih =>
    unfold Transfer.foldAll at success
    rw [List.foldlM_cons] at success
    obtain ⟨next, own, success⟩ := bind_ok success
    obtain ⟨transfers, read, _⟩ := bind_ok own
    have listed : Transfer.ofEvent e = .ok (Transfer.listOf e) := by
      unfold Transfer.listOf
      rw [read]
    exact List.forall_mem_cons.mpr ⟨listed, ih success⟩

theorem foldAll_add_iff {sender contract denom : String} {entry : LogEntry} {final : ContractFlow} :
    Transfer.foldAll (ContractFlow.add sender contract denom) {} (entry.ofKind "transfer") = .ok final ↔
      SingleCoins entry ∧
        final = (transfersIn entry).foldl (ContractFlow.noting sender contract denom) {} := by
  constructor
  · intro success
    have readable := readable_of_foldAll success
    rw [Transfer.foldAll_eq _ _ readable] at success
    obtain ⟨coins, rfl⟩ := ContractFlow.foldlM_add_iff.mp success
    exact ⟨⟨readable, coins⟩, rfl⟩
  · rintro ⟨⟨readable, coins⟩, rfl⟩
    rw [Transfer.foldAll_eq _ _ readable]
    exact ContractFlow.foldlM_add_iff.mpr ⟨coins, rfl⟩

section
variable {denom contract : String} {entry : LogEntry} {b : OutBody} {paid : Int}

/-- What is taken off the payment is the first refund. -/
theorem takenOff_eq (once : amountsMoved denom b.sender contract entry = [paid]) :
    ((((transfersIn entry).foldl (ContractFlow.noting b.sender contract denom) {}).refunded).map
        (·.amount)).getD 0 =
      .ofInt ((amountsMoved denom contract b.sender entry).sum -
        (notTakenOff denom contract b.sender entry).sum) := by
  unfold notTakenOff
  by_cases same : b.sender = contract
  · subst same
    obtain ⟨coin, single, _⟩ := List.map_eq_singleton_iff.mp once
    rw [if_pos rfl, ContractFlow.foldl_noting_alone single, Int.sub_self]
    rfl
  · rw [if_neg same, ContractFlow.foldl_noting_refunded _ (.inl same)]
    have natural := @isNatural_of_carried denom contract b.sender
    unfold amountsMoved
    cases back : coinsCarried denom contract b.sender (transfersIn entry) with
    | nil => rfl
    | cons first others =>
      have own : first.IsNatural := natural (back ▸ List.mem_cons_self)
      rw [List.map_cons, List.sum_cons, List.tail_cons, Int.add_sub_cancel]
      exact Decimal.IsWhole.eq_ofInt own.1

theorem contractInput_ok_iff (typeUrl : String) (hop : b.hopDenoms.head? = some denom)
    (routed : swapContract? entry = some contract)
    (once : amountsMoved denom b.sender contract entry = [paid]) {c : Coin} :
    contractInput typeUrl entry b = .ok c ↔
      SingleCoins entry ∧ c.denom = denom ∧ c.IsNatural ∧
        c.units = paid - ((amountsMoved denom contract b.sender entry).sum -
          (notTakenOff denom contract b.sender entry).sum) := by
  obtain ⟨others, hops⟩ : ∃ others, b.hopDenoms = denom :: others := List.head?_eq_some_iff.mp hop
  have off := takenOff_eq once
  obtain ⟨payment, counted, rfl⟩ := List.map_eq_singleton_iff.mp once
  have first := @ContractFlow.foldl_noting_paid b.sender contract denom (transfersIn entry) {}
  rw [counted] at first
  have natural : payment.IsNatural := isNatural_of_carried (counted ▸ List.mem_cons_self)
  have amount : payment.amount = .ofInt payment.units := Decimal.IsWhole.eq_ofInt natural.1
  generalize (amountsMoved denom contract b.sender entry).sum -
    (notTakenOff denom contract b.sender entry).sum = back at off ⊢
  unfold contractInput
  rw [hops, routed]
  dsimp only
  constructor
  · intro success
    obtain ⟨flow, folded, success⟩ := bind_ok success
    obtain ⟨single, rfl⟩ := foldAll_add_iff.mp folded
    simp only [first, Option.none_or, List.head?_cons, off, amount, Decimal.ofInt_sub] at success
    split at success
    · cases success
    · rename_i covered
      cases success
      have least : 0 ≤ payment.units - back := Int.not_lt.mp (mt decide_eq_true covered)
      exact ⟨single, rfl, ⟨Decimal.isWhole_ofInt _, least⟩, rfl⟩
  · rintro ⟨single, rfl, covered, net⟩
    have kept : (Decimal.ofInt c.units).isNegative = false :=
      decide_eq_false (Int.not_lt.mpr covered.2)
    rw [foldAll_add_iff.mpr ⟨single, rfl⟩]
    simp only [bind, Except.bind, first, Option.none_or, List.head?_cons, off, amount,
      Decimal.ofInt_sub, ← net, kept, Bool.false_eq_true, if_false]
    exact congrArg Except.ok covered.1.eq_units.symm

/-- Of a swap that its sender pays for once, the input is not negative and of the denomination paid. It is the
payment less all that came back from the contract exactly if all that is not taken off is of nothing. -/
theorem contractInput_nets_iff (typeUrl : String) (hop : b.hopDenoms.head? = some denom)
    (routed : swapContract? entry = some contract)
    (once : amountsMoved denom b.sender contract entry = [paid]) :
    (∀ c, contractInput typeUrl entry b = .ok c ↔
        SingleCoins entry ∧ c.denom = denom ∧ c.IsNatural ∧
          c.units = paid - ((amountsMoved denom contract b.sender entry).sum -
            (notTakenOff denom contract b.sender entry).sum)) ∧
      ∀ c, contractInput typeUrl entry b = .ok c →
        (c.units = paid - (amountsMoved denom contract b.sender entry).sum ↔
          ∀ n ∈ notTakenOff denom contract b.sender entry, n = 0) := by
  refine ⟨fun c => contractInput_ok_iff typeUrl hop routed once, ?_⟩
  intro c success
  obtain ⟨_, _, _, net⟩ := (contractInput_ok_iff typeUrl hop routed once).mp success
  have natural : ∀ n ∈ notTakenOff denom contract b.sender entry, 0 ≤ n := by
    intro n member
    have back : n ∈ amountsMoved denom contract b.sender entry := by
      unfold notTakenOff at member
      split at member
      · exact member
      · exact List.mem_of_mem_tail member
    obtain ⟨coin, carried, rfl⟩ := List.mem_map.mp back
    exact (isNatural_of_carried carried).2
  rw [net]
  constructor
  · intro level
    have nothing : (notTakenOff denom contract b.sender entry).sum = 0 := by omega
    exact fun n member => List.all_zero_of_le_zero_le_of_sum_eq_zero natural nothing member
  · intro nothing
    rw [List.sum_eq_zero nothing]
    omega

end

/-- A swap of one input for five of another, along one hop. -/
def routedBody : OutBody := ⟨"osmo1s", ["uosmo"], ⟨"uatom", "5"⟩⟩

/-- The sender pays 100 to the contract, which sends amounts of that denomination back and the output. -/
def routedEntry (refunds : List String) : LogEntry where
  events := [
    ⟨"transfer", [⟨"recipient", "osmo1contract"⟩, ⟨"sender", "osmo1s"⟩, ⟨"amount", "100uosmo"⟩] ++
      (refunds ++ ["5uatom"]).flatMap fun amount =>
        [⟨"recipient", "osmo1s"⟩, ⟨"sender", "osmo1contract"⟩, ⟨"amount", amount⟩]⟩,
    ⟨"wasm", [⟨"_contract_address", "osmo1contract"⟩]⟩]

/-- A refund of nothing behind the first changes nothing. -/
theorem contractInput_nets_iff_of_empty_refund :
    routedBody.hopDenoms.head? = some "uosmo" ∧
      swapContract? (routedEntry ["20uosmo", "0uosmo"]) = some "osmo1contract" ∧
      amountsMoved "uosmo" "osmo1s" "osmo1contract" (routedEntry ["20uosmo", "0uosmo"]) = [100] ∧
      contractInput swapExactOutType (routedEntry ["20uosmo", "0uosmo"]) routedBody = .ok ⟨80, "uosmo"⟩ ∧
      (80 : Int) =
        100 - (amountsMoved "uosmo" "osmo1contract" "osmo1s" (routedEntry ["20uosmo", "0uosmo"])).sum := by
  have routed : swapContract? (routedEntry ["20uosmo", "0uosmo"]) = some "osmo1contract" := by rfl
  have once : amountsMoved "uosmo" routedBody.sender "osmo1contract"
      (routedEntry ["20uosmo", "0uosmo"]) = [100] := by
    rfl
  have success : contractInput swapExactOutType (routedEntry ["20uosmo", "0uosmo"]) routedBody =
      .ok ⟨80, "uosmo"⟩ := by rfl
  have nets := contractInput_nets_iff swapExactOutType rfl routed once
  exact ⟨rfl, routed, once, success, (nets.2 _ success).mpr (by decide)⟩

/-- Of two refunds the second is not taken off: of 100 paid and 25 refunded, 80 are charged. -/
theorem second_refund_charged :
    routedBody.hopDenoms.head? = some "uosmo" ∧
      swapContract? (routedEntry ["20uosmo", "5uosmo"]) = some "osmo1contract" ∧
      SingleCoins (routedEntry ["20uosmo", "5uosmo"]) ∧
      amountsMoved "uosmo" "osmo1s" "osmo1contract" (routedEntry ["20uosmo", "5uosmo"]) = [100] ∧
      amountsMoved "uosmo" "osmo1contract" "osmo1s" (routedEntry ["20uosmo", "5uosmo"]) = [20, 5] ∧
      contractInput swapExactOutType (routedEntry ["20uosmo", "5uosmo"]) routedBody =
        .ok ⟨80, "uosmo"⟩ ∧
      (80 : Int) ≠ 100 - (20 + 5) := by
  have routed : swapContract? (routedEntry ["20uosmo", "5uosmo"]) = some "osmo1contract" := by rfl
  have once : amountsMoved "uosmo" routedBody.sender "osmo1contract"
      (routedEntry ["20uosmo", "5uosmo"]) = [100] := by rfl
  have success : contractInput swapExactOutType (routedEntry ["20uosmo", "5uosmo"]) routedBody =
      .ok ⟨80, "uosmo"⟩ := by rfl
  have single := ((contractInput_ok_iff swapExactOutType rfl routed once).mp success).1
  exact ⟨rfl, routed, single, once, by rfl, success, by decide⟩

end TaxLedger.Pool.Routed
