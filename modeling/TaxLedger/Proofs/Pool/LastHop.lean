import TaxLedger.Proofs.Pool.Payout

/-!
The output of a swap along a route is what its last hop gives. It is told by the last `token_swapped` event,
or else paid to the sender by the last group of one of the last two transfer events; what a hop in between
gives is never taken for it (`exactIn_ok_iff`).
-/

namespace TaxLedger.Pool.Routed

open Message

/-- The coin is what the hop gives, told by an event that names the pool of the hop last. -/
def OfHop (hop : InHop) (swapped : Event) (coin : Coin) : Prop :=
  coin.denom = hop.denomOut ∧ swapped.last "pool_id" = hop.poolId

instance (hop : InHop) (swapped : Event) (coin : Coin) : Decidable (OfHop hop swapped coin) :=
  inferInstanceAs (Decidable (_ ∧ _))

/-- The last output of the last `token_swapped` event is that of the hop. -/
def ToldBySwap (hop : InHop) (entry : LogEntry) (out : Coin) : Prop :=
  ∃ swapped, (entry.ofKind "token_swapped").getLast? = some swapped ∧
    Coin.parse (swapped.last "tokens_out") = .ok out ∧ OfHop hop swapped out

/-- No `token_swapped` event is there, or the last one has no output or one that is not the hop's. -/
def Untold (hop : InHop) (entry : LogEntry) : Prop :=
  ∀ swapped, (entry.ofKind "token_swapped").getLast? = some swapped →
    swapped.last "tokens_out" = "" ∨
      ∃ other, Coin.parse (swapped.last "tokens_out") = .ok other ∧ ¬OfHop hop swapped other

def PaysOut (recipient : String) (e : Event) (out : Coin) : Prop :=
  ∃ groups group, Transfer.ofEvent e = .ok groups ∧ groups.getLast? = some group ∧
    group.recipient = recipient ∧ Coin.parse group.amount = .ok out

/-- The event has no group, or its last one goes elsewhere or is of another denomination. -/
def PaysElsewhere (recipient denom : String) (e : Event) : Prop :=
  ∃ groups, Transfer.ofEvent e = .ok groups ∧
    ∀ group, groups.getLast? = some group → group.recipient = recipient →
      ∃ other, Coin.parse group.amount = .ok other ∧ other.denom ≠ denom

/-- One of the last two transfer events pays the output, and none behind it does. -/
def PaidByTransfer (recipient : String) (hop : InHop) (entry : LogEntry) (out : Coin) : Prop :=
  ∃ front e later, entry.ofKind "transfer" = front ++ e :: later ∧ later.length < 2 ∧
    PaysOut recipient e out ∧ out.denom = hop.denomOut ∧
    ∀ x ∈ later, PaysElsewhere recipient hop.denomOut x

/-! ### What the events tell -/

section
variable {hop : InHop} {recipient denom : String} {e : Event} {events : List Event} {out : Coin}

theorem outputOfSwapEvent_eq :
    outputOfSwapEvent hop e =
      if e.last "tokens_out" = "" then .ok none
      else (Coin.parse (e.last "tokens_out")).map fun coin =>
        if OfHop hop e coin then some coin else none := by
  unfold outputOfSwapEvent
  by_cases empty : e.last "tokens_out" = ""
  · simp only [empty, if_true]
    rfl
  · simp only [empty, if_false]
    cases Coin.parse (e.last "tokens_out") with
    | error problem => rfl
    | ok coin =>
      by_cases own : OfHop hop e coin
      · obtain ⟨wanted, pool⟩ := own
        simp [bind, Except.bind, pure, Except.pure, Except.map, OfHop, wanted, pool]
      · have strange : ¬(coin.denom = hop.denomOut ∧ e.last "pool_id" = hop.poolId) := own
        simp [bind, Except.bind, pure, Except.pure, Except.map, own, strange]

theorem outputOfSwapEvent_eq_some_iff :
    outputOfSwapEvent hop e = .ok (some out) ↔
      Coin.parse (e.last "tokens_out") = .ok out ∧ OfHop hop e out := by
  rw [outputOfSwapEvent_eq]
  constructor
  · intro told
    split at told
    · cases told
    · obtain ⟨coin, read, told⟩ := map_ok told
      split at told
      · rename_i own
        cases told
        exact ⟨read, own⟩
      · cases told
  · rintro ⟨read, own⟩
    have filled : e.last "tokens_out" ≠ "" := by
      intro empty
      rw [empty] at read
      cases read
    simp [filled, read, own, Except.map]

theorem outputOfSwapEvent_eq_none_iff :
    outputOfSwapEvent hop e = .ok none ↔
      e.last "tokens_out" = "" ∨
        ∃ other, Coin.parse (e.last "tokens_out") = .ok other ∧ ¬OfHop hop e other := by
  rw [outputOfSwapEvent_eq]
  constructor
  · intro untold
    split at untold
    · rename_i empty
      exact .inl empty
    · obtain ⟨coin, read, untold⟩ := map_ok untold
      split at untold
      · cases untold
      · rename_i strange
        exact .inr ⟨coin, read, strange⟩
  · rintro (empty | ⟨other, read, strange⟩)
    · rw [if_pos empty]
    · split
      · rfl
      · simp [read, strange, Except.map]

theorem toldOutput_eq_some_iff {entry : LogEntry} :
    toldOutput hop (entry.ofKind "token_swapped") = .ok (some out) ↔ ToldBySwap hop entry out := by
  unfold toldOutput ToldBySwap
  cases (entry.ofKind "token_swapped").getLast? with
  | none => exact ⟨nofun, nofun⟩
  | some swapped =>
    show outputOfSwapEvent hop swapped = _ ↔ _
    rw [outputOfSwapEvent_eq_some_iff]
    constructor
    · intro told
      exact ⟨swapped, rfl, told⟩
    · rintro ⟨other, same, told⟩
      cases same
      exact told

theorem toldOutput_eq_none_iff {entry : LogEntry} :
    toldOutput hop (entry.ofKind "token_swapped") = .ok none ↔ Untold hop entry := by
  unfold toldOutput Untold
  cases (entry.ofKind "token_swapped").getLast? with
  | none => exact iff_of_true rfl nofun
  | some swapped =>
    show outputOfSwapEvent hop swapped = _ ↔ _
    rw [outputOfSwapEvent_eq_none_iff]
    constructor
    · intro untold other same
      cases same
      exact untold
    · intro untold
      exact untold swapped rfl

theorem payoutTo_eq_some_iff :
    payoutTo recipient denom e = .ok (some out) ↔ PaysOut recipient e out ∧ out.denom = denom := by
  constructor
  · intro paid
    unfold payoutTo at paid
    obtain ⟨groups, read, paid⟩ := bind_ok paid
    cases final : groups.getLast? with
    | none =>
      rw [final] at paid
      cases paid
    | some group =>
      simp only [final] at paid
      split at paid
      · cases paid
      · rename_i own
        obtain ⟨coin, worth, paid⟩ := bind_ok paid
        split at paid
        · rename_i wanted
          cases paid
          exact ⟨⟨groups, group, read, final, by simpa using own, worth⟩, wanted⟩
        · cases paid
  · rintro ⟨⟨groups, group, read, final, own, worth⟩, wanted⟩
    simp [payoutTo, read, final, own, worth, wanted, bind, Except.bind, pure, Except.pure]

theorem payoutTo_eq_none_iff :
    payoutTo recipient denom e = .ok none ↔ PaysElsewhere recipient denom e := by
  constructor
  · intro unpaid
    unfold payoutTo at unpaid
    obtain ⟨groups, read, unpaid⟩ := bind_ok unpaid
    refine ⟨groups, read, ?_⟩
    intro group final own
    simp only [final, own, bne_self_eq_false, Bool.false_eq_true, if_false] at unpaid
    obtain ⟨coin, worth, unpaid⟩ := bind_ok unpaid
    split at unpaid
    · cases unpaid
    · rename_i other
      exact ⟨coin, worth, other⟩
  · rintro ⟨groups, read, elsewhere⟩
    unfold payoutTo
    rw [read]
    cases final : groups.getLast? with
    | none => simp [final, bind, Except.bind, pure, Except.pure]
    | some group =>
      by_cases own : group.recipient = recipient
      · obtain ⟨coin, worth, other⟩ := elsewhere group final own
        simp [final, own, worth, other, bind, Except.bind, pure, Except.pure]
      · simp [final, own, bind, Except.bind, pure, Except.pure]

/-! ### The transfer events from the end on -/

theorem foundIn_eq_some_iff :
    foundIn recipient denom events = some out ↔
      ∃ newer e older, events = newer ++ e :: older ∧
        payoutTo recipient denom e = .ok (some out) ∧
        ∀ x ∈ newer, payoutTo recipient denom x = .ok none := by
  constructor
  · intro found
    induction events with
    | nil => cases found
    | cons e rest ih =>
      rcases paid : payoutTo recipient denom e with problem | _ | coin
      · rw [foundIn_of_broken paid] at found
        cases found
      · rw [foundIn_of_unpaid paid] at found
        obtain ⟨newer, e', older, rfl, pays, unpaid⟩ := ih found
        exact ⟨e :: newer, e', older, rfl, pays, List.forall_mem_cons.mpr ⟨paid, unpaid⟩⟩
      · rw [foundIn_of_paid paid] at found
        cases found
        exact ⟨[], e, rest, rfl, paid, List.forall_mem_nil _⟩
  · rintro ⟨newer, e, older, rfl, paid, unpaid⟩
    induction newer with
    | nil => exact foundIn_of_paid paid older
    | cons x newer ih =>
      obtain ⟨first, others⟩ := List.forall_mem_cons.mp unpaid
      rw [List.cons_append, foundIn_of_unpaid first]
      exact ih others

/-- A place among the last items, seen from the end. -/
theorem take_reverse_eq_iff {α : Type} {xs newer : List α} {x : α} {n : Nat} :
    (∃ older, xs.reverse.take n = newer ++ x :: older) ↔
      ∃ front, xs = front ++ x :: newer.reverse ∧ newer.length < n := by
  constructor
  · rintro ⟨older, seen⟩
    have short : newer.length < n := by
      have level := congrArg List.length seen
      simp only [List.length_take, List.length_append, List.length_cons] at level
      omega
    have whole := List.take_append_drop n xs.reverse
    rw [seen] at whole
    generalize xs.reverse.drop n = rest at whole
    refine ⟨(older ++ rest).reverse, ?_, short⟩
    rw [← List.reverse_inj, ← whole]
    simp
  · rintro ⟨front, rfl, short⟩
    obtain ⟨more, rfl⟩ := Nat.exists_eq_add_of_lt short
    refine ⟨front.reverse.take more, ?_⟩
    have behind : (front ++ x :: newer.reverse).reverse = newer ++ x :: front.reverse := by simp
    rw [behind, Nat.add_assoc, List.take_length_add_append, List.take_succ_cons]

theorem foundIn_lookback_iff {entry : LogEntry} :
    foundIn recipient hop.denomOut ((entry.ofKind "transfer").reverse.take transferLookback) = some out ↔
      PaidByTransfer recipient hop entry out := by
  rw [foundIn_eq_some_iff]
  constructor
  · rintro ⟨newer, e, older, seen, paid, unpaid⟩
    obtain ⟨front, listed, short⟩ := take_reverse_eq_iff.mp ⟨older, seen⟩
    obtain ⟨pays, wanted⟩ := payoutTo_eq_some_iff.mp paid
    have near : newer.reverse.length < 2 := by rwa [List.length_reverse]
    refine ⟨front, e, newer.reverse, listed, near, pays, wanted, ?_⟩
    intro x member
    exact payoutTo_eq_none_iff.mp (unpaid x (List.mem_reverse.mp member))
  · rintro ⟨front, e, later, listed, short, pays, wanted, elsewhere⟩
    have place : ∃ front, entry.ofKind "transfer" = front ++ e :: later.reverse.reverse ∧
        later.reverse.length < transferLookback :=
      ⟨front, by rw [List.reverse_reverse, listed], by rwa [List.length_reverse]⟩
    obtain ⟨older, seen⟩ := take_reverse_eq_iff.mpr place
    refine ⟨later.reverse, e, older, seen, payoutTo_eq_some_iff.mpr ⟨pays, wanted⟩, ?_⟩
    intro x member
    exact payoutTo_eq_none_iff.mpr (elsewhere x (List.mem_reverse.mp member))

end

/-! ### The swap -/

theorem outputIn_eq_some_iff {sender : String} {hop : InHop} {entry : LogEntry} {out : Coin} :
    outputIn sender hop entry = some out ↔
      ToldBySwap hop entry out ∨ Untold hop entry ∧ PaidByTransfer sender hop entry out := by
  rw [← toldOutput_eq_some_iff, ← toldOutput_eq_none_iff, ← foundIn_lookback_iff]
  unfold outputIn toldOr
  rcases toldOutput hop (entry.ofKind "token_swapped") with problem | _ | coin
  · simp
  · simp
  · simp

theorem asked?_eq_some_iff {message : Json} {sender : String} {tokenIn : Coin} {hop : InHop} :
    asked? message = some (sender, tokenIn, hop) ↔
      ∃ b, inBodyOfJson? message = some b ∧ b.sender = sender ∧ b.tokenIn.toCoin = .ok tokenIn ∧
        b.hops.getLast? = some hop := by
  unfold asked? body
  cases inBodyOfJson? message with
  | none => exact ⟨nofun, nofun⟩
  | some b =>
    cases worth : b.tokenIn.toCoin with
    | error problem => simp [worth, Except.toOption]
    | ok coin =>
      cases last : b.hops.getLast? with
      | none => simp [worth, last, Except.toOption]
      | some own => simp [worth, last, Except.toOption]

/-- A swap with a fixed input gives one swap, by its sender and of its input. The output is of the
denomination that the last hop gives: it is what the last `token_swapped` event tells last for the pool of
that hop; only where that is missing or not of the hop, it is what the last group of one of the last two
transfer events pays to the sender. -/
theorem exactIn_ok_iff {typeUrl : String} {message : Json} {log : Option LogEntry}
    {found : Option Swap} :
    exactIn typeUrl message log = .ok found ↔
      ∃ entry b tokenIn hop out, log = some entry ∧ entry.hasAction typeUrl = true ∧
        inBodyOfJson? message = some b ∧ b.tokenIn.toCoin = .ok tokenIn ∧
        b.hops.getLast? = some hop ∧ found = some ⟨b.sender, tokenIn, out⟩ ∧ out.denom = hop.denomOut ∧
        (ToldBySwap hop entry out ∨ Untold hop entry ∧ PaidByTransfer b.sender hop entry out) := by
  constructor
  · intro success
    cases log with
    | none => cases success
    | some entry =>
      have seen := exactIn_toOption typeUrl message entry
      rw [success] at seen
      split at seen
      · rename_i named
        obtain ⟨⟨sender, tokenIn, hop⟩, asks, seen⟩ := Option.bind_eq_some_iff.mp seen.symm
        obtain ⟨out, told, rfl⟩ := Option.map_eq_some_iff.mp seen
        obtain ⟨b, read, rfl, worth, last⟩ := asked?_eq_some_iff.mp asks
        have source := outputIn_eq_some_iff.mp told
        refine ⟨entry, b, tokenIn, hop, out, rfl, named, read, worth, last, rfl, ?_, source⟩
        rcases source with ⟨_, _, _, wanted, _⟩ | ⟨_, _, _, _, _, _, _, wanted, _⟩
        · exact wanted
        · exact wanted
      · cases seen
  · rintro ⟨entry, b, tokenIn, hop, out, rfl, named, read, worth, last, rfl, -, source⟩
    apply ok_of_toOption
    have asks : asked? message = some (b.sender, tokenIn, hop) :=
      asked?_eq_some_iff.mpr ⟨b, read, rfl, worth, last⟩
    have told : outputIn b.sender hop entry = some out := outputIn_eq_some_iff.mpr source
    simp [exactIn_toOption, named, asks, told]

/-- The route goes on behind the first output that the event tells. -/
example :
    exactIn swapExactInType swapMessage (some ⟨0, [
      ⟨"message", [⟨"action", "swap_exact_amount_in"⟩]⟩,
      ⟨"token_swapped", [⟨"pool_id", "1"⟩, ⟨"tokens_out", "7uion"⟩, ⟨"pool_id", "9"⟩,
        ⟨"tokens_out", "3uatom"⟩]⟩]⟩) =
      .ok (some ⟨"osmo1s", ⟨100, "uosmo"⟩, ⟨3, "uatom"⟩⟩) := by rfl

end TaxLedger.Pool.Routed
