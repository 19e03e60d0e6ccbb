import TaxLedger.Pool.Weighted
import TaxLedger.Proofs.Coin.Whole

/-!
What the readers of messages about shares tell. All coins are whole, those that are parts of shares
included, and whatever moves besides the shares and their tokens is well formed. Five of the seven readers
refuse a message without tokens.
-/

namespace TaxLedger.Pool

/-! ### Parts of shares -/

theorem length_splitShares (shares : Coin) (n : Nat) : (splitShares shares n).length = n := by
  cases n with
  | zero => rfl
  | succ n => simp [splitShares]

theorem denom_of_mem_splitShares {shares part : Coin} {n : Nat}
    (member : part ∈ splitShares shares n) : part.denom = shares.denom := by
  cases n with
  | zero => cases member
  | succ n =>
    rw [splitShares] at member
    rcases List.mem_append.mp member with equal | last
    · rw [List.eq_of_mem_replicate equal]
    · rw [List.mem_singleton.mp last]

/-- The base units of the equal part of which a division has all but one. -/
def equalPart (shares : Coin) (n : Nat) : Int :=
  ((shares.amount.divide (.ofInt n)).withScale 0).coefficient

theorem splitShares_eq {shares : Coin} (whole : shares.IsWhole) {n : Nat} (some : 1 ≤ n) :
    splitShares shares n =
      List.replicate (n - 1) ⟨.ofInt (equalPart shares n), shares.denom⟩ ++
        [⟨.ofInt (shares.units - equalPart shares n * (n - 1 : Nat)), shares.denom⟩] := by
  obtain ⟨m, rfl⟩ := Nat.exists_eq_add_of_le' some
  have each : (shares.amount.divide (.ofInt (m + 1 : Nat))).withScale 0 =
      .ofInt (equalPart shares (m + 1)) := (Decimal.isWhole_withScale _).eq_ofInt
  have total : shares.amount = .ofInt shares.units := Decimal.IsWhole.eq_ofInt whole
  rw [splitShares, each, total, Decimal.ofInt_mul, Decimal.ofInt_sub]
  rfl

theorem isWhole_of_mem_splitShares {shares part : Coin} (whole : shares.IsWhole) {n : Nat}
    (member : part ∈ splitShares shares n) : part.IsWhole := by
  cases n with
  | zero => cases member
  | succ n =>
    rw [splitShares_eq whole (Nat.le_add_left 1 n)] at member
    rcases List.mem_append.mp member with equal | last
    · rw [List.eq_of_mem_replicate equal]
      exact Decimal.isWhole_ofInt _
    · rw [List.mem_singleton.mp last]
      exact Decimal.isWhole_ofInt _

/-! ### Pieces of a log -/

section
variable {typeUrl sender account recipient poolId : String} {entry : LogEntry} {tokens coins : List Coin}
  {c : Coin} {m : Movement}

theorem exited_ok (success : exited typeUrl entry sender = .ok (account, tokens)) :
    tokens ≠ [] ∧ ∀ c ∈ tokens, c.IsWhole := by
  obtain ⟨e, _, success⟩ := bind_ok success
  obtain ⟨listed, read, success⟩ := bind_ok success
  split at success
  · cases success
  · rename_i filled
    cases success
    exact ⟨by simpa using filled, Coin.isWhole_of_parseList read⟩

theorem swapOfEvent_ok {swapped : Event} (success : swapOfEvent account swapped = .ok m) :
    m.WellFormed := by
  obtain ⟨tokenIn, given, success⟩ := bind_ok success
  obtain ⟨tokenOut, gotten, success⟩ := bind_ok success
  cases success
  exact Movement.wellFormed_swap account (Coin.isWhole_of_parse given) (Coin.isWhole_of_parse gotten)

theorem burntShares_ok (success : burntShares typeUrl entry = .ok c) : c.IsWhole := by
  obtain ⟨burn, _, success⟩ := bind_ok success
  obtain ⟨shares, read, success⟩ := bind_ok success
  split at success
  · cases success
    exact Coin.isWhole_of_parse read
  · cases success

theorem claimedCoins_ok {hasClaim : Bool} {transfer : Event}
    (success : claimedCoins hasClaim transfer = .ok coins) : ∀ c ∈ coins, c.IsWhole := by
  rw [claimedCoins] at success
  split at success
  · exact Coin.isWhole_of_parseList success
  · cases success
    exact List.forall_mem_nil _

theorem joinedTokens_ok {transfer : Event}
    (success : joinedTokens typeUrl entry transfer sender = .ok (account, tokens)) :
    ∀ c ∈ tokens, c.IsWhole := by
  rw [joinedTokens] at success
  split at success
  · obtain ⟨listed, read, success⟩ := bind_ok success
    cases success
    exact Coin.isWhole_of_parseList read
  · split at success
    · cases success
    · split at success
      · cases success
      · obtain ⟨listed, read, success⟩ := bind_ok success
        cases success
        exact Coin.isWhole_of_parseList read

end

/-! ### Creation by transfers -/

namespace CreationFlow
variable {flow final : CreationFlow}

structure IsWhole (flow : CreationFlow) : Prop where
  spent : ∀ c ∈ flow.spent, c.IsWhole
  shares : ∀ c ∈ flow.shares, c.IsWhole
  others : ∀ c ∈ flow.others, c.2.IsWhole

theorem IsWhole.receive {coin : Coin} (whole : flow.IsWhole) (own : coin.IsWhole) (sender : String) :
    (receive sender flow coin).IsWhole := by
  rw [CreationFlow.receive]
  split
  · exact { whole with shares := fun _ same => Option.some.inj same ▸ own }
  · refine { whole with others := List.forall_mem_append.mpr ⟨whole.others, ?_⟩ }
    exact List.forall_mem_singleton.mpr own

theorem IsWhole.foldl_receive {coins : List Coin} (whole : flow.IsWhole)
    (all : ∀ c ∈ coins, c.IsWhole) (sender : String) :
    (coins.foldl (CreationFlow.receive sender) flow).IsWhole := by
  induction coins generalizing flow with
  | nil => exact whole
  | cons coin rest ih =>
    obtain ⟨own, others⟩ := List.forall_mem_cons.mp all
    exact ih (whole.receive own sender) others

theorem IsWhole.add {creator : String} {t : Transfer} (whole : flow.IsWhole)
    (success : flow.add creator t = .ok final) : final.IsWhole := by
  rw [CreationFlow.add] at success
  split at success
  · obtain ⟨coins, read, success⟩ := bind_ok success
    cases success
    exact whole.foldl_receive (Coin.isWhole_of_parseList read) t.sender
  · split at success
    · obtain ⟨coins, read, success⟩ := bind_ok success
      cases success
      refine { whole with spent := List.forall_mem_append.mpr ⟨whole.spent, ?_⟩ }
      exact Coin.isWhole_of_parseList read
    · cases success
      exact whole

theorem isWhole_foldAll {creator : String} {events : List Event}
    (success : Transfer.foldAll (CreationFlow.add creator) {} events = .ok final) : final.IsWhole := by
  have start : ({} : CreationFlow).IsWhole := ⟨nofun, nofun, nofun⟩
  refine foldlM_keeps (P := IsWhole) ?_ start success
  intro before after e whole added
  obtain ⟨transfers, _, added⟩ := bind_ok added
  exact foldlM_keeps (P := IsWhole) (fun so step => so.add step) whole added

end CreationFlow

/-! ### One reader after the other -/

/-- The coins are whole, and what moves besides the shares is well formed. -/
structure Liquidity.WellFormed (l : Liquidity) : Prop where
  shares : l.shares.IsWhole
  tokens : ∀ c ∈ l.tokens, c.IsWhole
  others : ∀ m ∈ l.others, m.WellFormed

section
variable {typeUrl : String} {message : Json} {entry : LogEntry} {l : Liquidity}

theorem joinPool_ok (success : joinPool typeUrl message entry = .ok l) : l.WellFormed := by
  obtain ⟨sender, _, success⟩ := bind_ok success
  obtain ⟨transfer, _, success⟩ := bind_ok success
  obtain ⟨claimed, claims, success⟩ := bind_ok success
  obtain ⟨shares, read, success⟩ := bind_ok success
  split at success
  · cases success
  · obtain ⟨⟨account, tokens⟩, given, success⟩ := bind_ok success
    cases success
    refine ⟨Coin.isWhole_of_parse read, joinedTokens_ok given, ?_⟩
    exact List.forall_mem_map.mpr fun coin member =>
      Movement.wellFormed_receipt account (claimedCoins_ok claims coin member)

theorem exitShares_ok (success : exitShares typeUrl message entry = .ok l) :
    l.tokens ≠ [] ∧ l.WellFormed := by
  obtain ⟨sender, _, success⟩ := bind_ok success
  obtain ⟨shares, burnt, success⟩ := bind_ok success
  obtain ⟨⟨account, tokens⟩, left, success⟩ := bind_ok success
  obtain ⟨swaps, read, success⟩ := bind_ok success
  cases success
  obtain ⟨filled, whole⟩ := exited_ok left
  refine ⟨filled, burntShares_ok burnt, whole, fun m member => ?_⟩
  obtain ⟨swapped, _, told⟩ := mapM_ok read m member
  exact swapOfEvent_ok told

theorem exitToken_ok (success : exitToken typeUrl message entry = .ok l) :
    l.tokens ≠ [] ∧ l.WellFormed := by
  obtain ⟨sender, _, success⟩ := bind_ok success
  obtain ⟨shares, burnt, success⟩ := bind_ok success
  obtain ⟨⟨account, tokens⟩, left, success⟩ := bind_ok success
  cases success
  obtain ⟨filled, whole⟩ := exited_ok left
  exact ⟨filled, burntShares_ok burnt, whole, List.forall_mem_nil _⟩

theorem exitPoolByEvent_ok (success : exitPoolByEvent typeUrl message entry = .ok l) :
    l.tokens ≠ [] ∧ l.WellFormed := by
  obtain ⟨b, _, success⟩ := bind_ok success
  obtain ⟨transfer, _, success⟩ := bind_ok success
  obtain ⟨shares, read, success⟩ := bind_ok success
  split at success
  · cases success
  · obtain ⟨⟨account, tokens⟩, left, success⟩ := bind_ok success
    cases success
    obtain ⟨filled, whole⟩ := exited_ok left
    exact ⟨filled, Coin.isWhole_of_parse read, whole, List.forall_mem_nil _⟩

theorem exitPoolByTransfer_ok (success : exitPoolByTransfer typeUrl message entry = .ok l) :
    l.WellFormed := by
  obtain ⟨b, _, success⟩ := bind_ok success
  obtain ⟨transfer, _, success⟩ := bind_ok success
  split at success
  · cases success
  · obtain ⟨tokens, read, success⟩ := bind_ok success
    obtain ⟨amount, parsed, success⟩ := bind_ok success
    cases success
    exact ⟨Coin.isWhole_of_parseAmount parsed, Coin.isWhole_of_parseList read, List.forall_mem_nil _⟩

theorem createByCoinEvents_ok (success : createByCoinEvents typeUrl message entry = .ok l) :
    l.tokens ≠ [] ∧ l.WellFormed := by
  obtain ⟨sender, _, success⟩ := bind_ok success
  obtain ⟨spent, paid, success⟩ := bind_ok success
  split at success
  · cases success
  · rename_i several
    obtain ⟨received, gained, success⟩ := bind_ok success
    split at success
    · split at success
      · cases success
        have shares := isWhole_of_coinsFollowing gained _ List.mem_cons_self
        refine ⟨?_, shares, isWhole_of_coinsFollowing paid, List.forall_mem_nil _⟩
        rintro rfl
        exact several (by decide)
      · cases success
    · cases success

theorem createByTransfers_ok (success : createByTransfers typeUrl message entry = .ok l) :
    l.tokens ≠ [] ∧ l.WellFormed := by
  obtain ⟨creator, _, success⟩ := bind_ok success
  obtain ⟨flow, folded, success⟩ := bind_ok success
  have whole := CreationFlow.isWhole_foldAll folded
  split at success
  · cases success
  · rename_i shares minted
    split at success
    · cases success
    · rename_i filled
      cases success
      refine ⟨by simpa using filled, whole.shares shares minted, whole.spent, ?_⟩
      exact List.forall_mem_map.mpr fun (sender, coin) member =>
        Movement.wellFormed_transfer sender creator (whole.others _ member)

end

/-! ### All readers -/

/-- What every reader about shares keeps: only two of them let a message without tokens pass. -/
def LiquidityReader.Tells (read : LiquidityReader) : Prop :=
  ∀ (typeUrl : String) (message : Json) (entry : LogEntry) (l : Liquidity),
    read typeUrl message entry = .ok l →
      l.WellFormed ∧ (l.tokens = [] → read = joinPool ∨ read = exitPoolByTransfer)

theorem liquidityReaders_tell : ∀ entry ∈ liquidityReaders, entry.2.2.2.Tells := by
  have guarded {read : LiquidityReader}
      (reads : ∀ {typeUrl : String} {message : Json} {entry : LogEntry} {l : Liquidity},
        read typeUrl message entry = .ok l → l.tokens ≠ [] ∧ l.WellFormed) : read.Tells := by
    intro typeUrl message entry l success
    obtain ⟨filled, whole⟩ := reads success
    exact ⟨whole, fun none => absurd none filled⟩
  have join : LiquidityReader.Tells joinPool := fun _ _ _ _ success =>
    ⟨joinPool_ok success, fun _ => .inl rfl⟩
  have transferred : LiquidityReader.Tells exitPoolByTransfer := fun _ _ _ _ success =>
    ⟨exitPoolByTransfer_ok success, fun _ => .inr rfl⟩
  have coinEvents : LiquidityReader.Tells createByCoinEvents := guarded createByCoinEvents_ok
  have transfers : LiquidityReader.Tells createByTransfers := guarded createByTransfers_ok
  simp only [liquidityReaders, List.forall_mem_cons]
  exact ⟨join, guarded exitShares_ok, guarded exitToken_ok, guarded exitPoolByEvent_ok, transferred,
    coinEvents, transfers, coinEvents, transfers, coinEvents, transfers, List.forall_mem_nil _⟩

/-! ### Legs -/

theorem legs_wellFormed {l : Liquidity} (well : l.WellFormed) (side : Side) :
    ∀ m ∈ l.legs side, m.WellFormed := by
  intro m member
  cases side with
  | deposit =>
    rw [Liquidity.legs, depositLegs, ← List.map_uncurry_zip_eq_zipWith] at member
    obtain ⟨⟨part, token⟩, paired, rfl⟩ := List.mem_map.mp member
    obtain ⟨among, given⟩ := List.of_mem_zip paired
    exact Movement.wellFormed_swap l.account (well.tokens token given)
      (isWhole_of_mem_splitShares well.shares among)
  | withdrawal =>
    rw [Liquidity.legs, withdrawalLegs, ← List.map_uncurry_zip_eq_zipWith] at member
    obtain ⟨⟨part, token⟩, paired, rfl⟩ := List.mem_map.mp member
    obtain ⟨among, gotten⟩ := List.of_mem_zip paired
    exact Movement.wellFormed_swap l.account (isWhole_of_mem_splitShares well.shares among)
      (well.tokens token gotten)

end TaxLedger.Pool
