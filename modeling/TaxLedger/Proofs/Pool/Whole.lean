import TaxLedger.Pool.Batch
import TaxLedger.Pool.Position
import TaxLedger.Pool.Routed
import TaxLedger.Proofs.Pool.Liquidity

/-!
The coins of pool messages. Every reader takes its coins from the log or from the body, or adds and
subtracts amounts from there, so that all of them are whole.
-/

namespace TaxLedger.Pool

open Message

structure Swap.IsWhole (s : Swap) : Prop where
  tokenIn : s.tokenIn.IsWhole
  tokenOut : s.tokenOut.IsWhole

theorem Swap.IsWhole.movement {s : Swap} (whole : s.IsWhole) : s.movement.WellFormed :=
  Movement.wellFormed_swap s.account whole.tokenIn whole.tokenOut

/-! ### Swaps -/

def SwapReader.IsWhole (read : SwapReader) : Prop :=
  ∀ (typeUrl : String) (message : Json) (entry : LogEntry) (s : Swap),
    read typeUrl message entry = .ok s → s.IsWhole

theorem swapInBySwapEvent_whole : SwapReader.IsWhole swapInBySwapEvent := by
  intro typeUrl message entry s success
  obtain ⟨b, _, success⟩ := bind_ok success
  obtain ⟨swapped, _, success⟩ := bind_ok success
  dsimp only at success
  split at success
  · obtain ⟨tokenIn, given, success⟩ := bind_ok success
    obtain ⟨tokenOut, gotten, success⟩ := bind_ok success
    cases success
    exact ⟨CoinText.isWhole_of_toCoin given, Coin.isWhole_of_parse gotten⟩
  · obtain ⟨tokenIn, given, success⟩ := bind_ok success
    obtain ⟨tokenOut, gotten, success⟩ := bind_ok success
    cases success
    exact ⟨Coin.isWhole_of_parse given, Coin.isWhole_of_parse gotten⟩

theorem swapInByClaim_whole : SwapReader.IsWhole swapInByClaim := by
  intro typeUrl message entry s success
  obtain ⟨b, _, success⟩ := bind_ok success
  obtain ⟨claim, _, success⟩ := bind_ok success
  obtain ⟨tokenIn, given, success⟩ := bind_ok success
  obtain ⟨tokenOut, gotten, success⟩ := bind_ok success
  cases success
  exact ⟨CoinText.isWhole_of_toCoin given, Coin.isWhole_of_parse gotten⟩

theorem swapInBySecondTransfer_whole : SwapReader.IsWhole swapInBySecondTransfer := by
  intro typeUrl message entry s success
  obtain ⟨b, _, success⟩ := bind_ok success
  obtain ⟨transfer, _, success⟩ := bind_ok success
  obtain ⟨tokenIn, given, success⟩ := bind_ok success
  obtain ⟨_, _, success⟩ := bind_ok success
  split at success
  · cases success
  · obtain ⟨tokenOut, gotten, success⟩ := bind_ok success
    obtain ⟨_, _, success⟩ := bind_ok success
    cases success
    exact ⟨CoinText.isWhole_of_toCoin given, Coin.isWhole_of_parse gotten⟩

theorem swapInByLastTransfer_whole : SwapReader.IsWhole swapInByLastTransfer := by
  intro typeUrl message entry s success
  obtain ⟨b, _, success⟩ := bind_ok success
  obtain ⟨transfer, _, success⟩ := bind_ok success
  obtain ⟨tokenIn, given, success⟩ := bind_ok success
  obtain ⟨_, _, success⟩ := bind_ok success
  split at success
  · cases success
  · obtain ⟨tokenOut, gotten, success⟩ := bind_ok success
    obtain ⟨_, _, success⟩ := bind_ok success
    cases success
    exact ⟨CoinText.isWhole_of_toCoin given, Coin.isWhole_of_parse gotten⟩

theorem firstOfDenom_whole {denom : String} {texts : List String} {c : Coin}
    (success : firstOfDenom denom texts = .ok (some c)) : c.IsWhole := by
  induction texts with
  | nil => cases success
  | cons text rest ih =>
    obtain ⟨coin, read, success⟩ := bind_ok success
    split at success
    · cases success
      exact Coin.isWhole_of_parse read
    · exact ih success

theorem swapOut_whole : SwapReader.IsWhole swapOut := by
  intro typeUrl message entry s success
  obtain ⟨b, _, success⟩ := bind_ok success
  split at success
  · obtain ⟨tokenIn, given, success⟩ := bind_ok success
    obtain ⟨tokenOut, gotten, success⟩ := bind_ok success
    cases success
    exact ⟨Coin.isWhole_of_parse given, Coin.isWhole_of_parse gotten⟩
  · obtain ⟨transfer, _, success⟩ := bind_ok success
    split at success
    · cases success
    · obtain ⟨first, given, success⟩ := bind_ok success
      split at success
      · cases success
      · obtain ⟨tokenOut, gotten, success⟩ := bind_ok success
        cases success
        exact ⟨firstOfDenom_whole given, Coin.isWhole_of_parse gotten⟩

/-! ### Joins with one token -/

section
variable {typeUrl : String} {entry : LogEntry} {c : Coin}

theorem mintedShares_whole (success : mintedShares typeUrl entry = .ok c) : c.IsWhole := by
  obtain ⟨coinbase, _, success⟩ := bind_ok success
  dsimp only at success
  split at success
  · exact Coin.isWhole_of_parse success
  · cases success

theorem transferredShares_whole {b : JoinBody} (success : transferredShares typeUrl entry b = .ok c) :
    c.IsWhole := by
  obtain ⟨transfer, _, success⟩ := bind_ok success
  split at success
  · exact Coin.isWhole_of_parse success
  · cases success

theorem joinedToken_whole {sender account : String}
    (success : joinedToken typeUrl entry sender = .ok (account, c)) : c.IsWhole := by
  obtain ⟨joined, _, success⟩ := bind_ok success
  obtain ⟨tokenIn, given, success⟩ := bind_ok success
  cases success
  exact Coin.isWhole_of_parse given

end

theorem joinTokenByCoinbase_whole : SwapReader.IsWhole joinTokenByCoinbase := by
  intro typeUrl message entry s success
  obtain ⟨⟨b, text⟩, _, success⟩ := bind_ok success
  obtain ⟨shares, minted, success⟩ := bind_ok success
  obtain ⟨joined, _, success⟩ := bind_ok success
  obtain ⟨tokenIn, given, success⟩ := bind_ok success
  cases success
  exact ⟨CoinText.isWhole_of_toCoin given, mintedShares_whole minted⟩

theorem joinTokenByTransfer_whole : SwapReader.IsWhole joinTokenByTransfer := by
  intro typeUrl message entry s success
  obtain ⟨⟨b, text⟩, _, success⟩ := bind_ok success
  obtain ⟨shares, moved, success⟩ := bind_ok success
  obtain ⟨tokenIn, given, success⟩ := bind_ok success
  cases success
  exact ⟨CoinText.isWhole_of_toCoin given, transferredShares_whole moved⟩

theorem joinSharesByCoinbase_whole : SwapReader.IsWhole joinSharesByCoinbase := by
  intro typeUrl message entry s success
  obtain ⟨b, _, success⟩ := bind_ok success
  obtain ⟨shares, minted, success⟩ := bind_ok success
  obtain ⟨⟨account, tokenIn⟩, given, success⟩ := bind_ok success
  cases success
  exact ⟨joinedToken_whole given, mintedShares_whole minted⟩

theorem joinSharesByTransfer_whole : SwapReader.IsWhole joinSharesByTransfer := by
  intro typeUrl message entry s success
  obtain ⟨b, _, success⟩ := bind_ok success
  obtain ⟨shares, moved, success⟩ := bind_ok success
  obtain ⟨⟨account, tokenIn⟩, given, success⟩ := bind_ok success
  cases success
  exact ⟨joinedToken_whole given, transferredShares_whole moved⟩

theorem swapReaders_whole : ∀ entry ∈ swapReaders, entry.2.2.IsWhole := by
  simp only [swapReaders, List.forall_mem_cons]
  exact ⟨swapInBySwapEvent_whole, swapInByClaim_whole, swapInBySecondTransfer_whole,
    swapInByLastTransfer_whole, swapOut_whole, joinTokenByCoinbase_whole, joinTokenByTransfer_whole,
    joinSharesByCoinbase_whole, joinSharesByTransfer_whole, List.forall_mem_nil _⟩

/-! ### Routed swaps -/

namespace Routed

def Reader.IsWhole (read : Reader) : Prop :=
  ∀ (typeUrl : String) (message : Json) (log : Option LogEntry) (s : Swap),
    read typeUrl message log = .ok (some s) → s.IsWhole

theorem outputOfSwapEvent_whole {lastHop : InHop} {swapped : Event} {c : Coin}
    (success : outputOfSwapEvent lastHop swapped = .ok (some c)) : c.IsWhole := by
  rw [outputOfSwapEvent] at success
  split at success
  · cases success
  · obtain ⟨coin, read, success⟩ := bind_ok success
    split at success
    · cases success
      exact Coin.isWhole_of_parse read
    · cases success

theorem payoutTo_whole {recipient denom : String} {e : Event} {c : Coin}
    (success : payoutTo recipient denom e = .ok (some c)) : c.IsWhole := by
  obtain ⟨groups, _, success⟩ := bind_ok success
  split at success
  · cases success
  · split at success
    · cases success
    · obtain ⟨coin, read, success⟩ := bind_ok success
      split at success
      · cases success
        exact Coin.isWhole_of_parse read
      · cases success

theorem firstPayout_whole {typeUrl recipient denom : String} {events : List (Event × Nat)} {c : Coin}
    (success : firstPayout typeUrl recipient denom events = .ok (some c)) : c.IsWhole := by
  induction events with
  | nil => cases success
  | cons first rest ih =>
    obtain ⟨e, index⟩ := first
    rw [firstPayout] at success
    split at success
    · cases success
    · rename_i coin paid
      cases success
      exact payoutTo_whole paid
    · exact ih success

/-- The last step of a swap with a fixed input: what a transfer pays is the output. -/
theorem payout_whole {typeUrl recipient denom : String} {events : List (Event × Nat)} {tokenIn : Coin}
    {s : Swap} {failure : Except DecodeError (Option Swap)} (input : tokenIn.IsWhole)
    (success : (firstPayout typeUrl recipient denom events >>= fun
      | some tokenOut => .ok (some ⟨recipient, tokenIn, tokenOut⟩)
      | none => failure) = .ok (some s))
    (fails : failure ≠ .ok (some s)) : s.IsWhole := by
  obtain ⟨paid, found, success⟩ := bind_ok success
  cases paid with
  | none => exact absurd success fails
  | some tokenOut =>
    cases success
    exact ⟨input, firstPayout_whole found⟩

theorem exactIn_whole : Reader.IsWhole exactIn := by
  intro typeUrl message log s success
  obtain ⟨entry, _, success⟩ := bind_ok success
  obtain ⟨b, _, success⟩ := bind_ok success
  obtain ⟨tokenIn, given, success⟩ := bind_ok success
  have input := CoinText.isWhole_of_toCoin given
  split at success
  · cases success
  dsimp only at success
  split at success
  · obtain ⟨swapped, told, success⟩ := bind_ok success
    cases swapped with
    | some tokenOut =>
      cases success
      exact ⟨input, outputOfSwapEvent_whole told⟩
    | none => exact payout_whole input success nofun
  · exact payout_whole input success nofun

/-! #### Through a contract -/

structure ContractFlow.IsWhole (flow : ContractFlow) : Prop where
  paid : ∀ c ∈ flow.paid, c.IsWhole
  refunded : ∀ c ∈ flow.refunded, c.IsWhole

theorem ContractFlow.IsWhole.add {sender contract denom : String} {flow final : ContractFlow}
    {t : Transfer} (whole : flow.IsWhole) (success : flow.add sender contract denom t = .ok final) :
    final.IsWhole := by
  obtain ⟨coin, read, success⟩ := bind_ok success
  have own := Coin.isWhole_of_parse read
  split at success
  · cases success
    exact whole
  split at success
  · cases success
    exact { whole with paid := fun _ same => Option.some.inj same ▸ own }
  split at success
  · cases success
    exact { whole with refunded := fun _ same => Option.some.inj same ▸ own }
  · cases success
    exact whole

theorem ContractFlow.isWhole_foldAll {sender contract denom : String} {events : List Event}
    {flow : ContractFlow}
    (success : Transfer.foldAll (ContractFlow.add sender contract denom) {} events = .ok flow) :
    flow.IsWhole := by
  have start : ({} : ContractFlow).IsWhole := ⟨nofun, nofun⟩
  refine foldlM_keeps (P := ContractFlow.IsWhole) ?_ start success
  intro before after e whole added
  obtain ⟨transfers, _, added⟩ := bind_ok added
  exact foldlM_keeps (P := ContractFlow.IsWhole) (fun so step => so.add step) whole added

theorem contractInput_whole {typeUrl : String} {entry : LogEntry} {b : OutBody} {c : Coin}
    (success : contractInput typeUrl entry b = .ok c) : c.IsWhole := by
  rw [contractInput] at success
  split at success
  · cases success
  split at success
  · cases success
  obtain ⟨flow, folded, success⟩ := bind_ok success
  have whole := ContractFlow.isWhole_foldAll folded
  split at success
  · cases success
  · rename_i paid payment
    dsimp only at success
    split at success
    · cases success
    · cases success
      have back : ((flow.refunded.map Coin.amount).getD 0).IsWhole := by
        cases refund : flow.refunded with
        | none => exact Decimal.isWhole_ofInt 0
        | some coin => exact whole.refunded coin refund
      exact Decimal.IsWhole.sub (whole.paid paid payment) back

theorem exactOut_whole : Reader.IsWhole exactOut := by
  intro typeUrl message log s success
  obtain ⟨entry, _, success⟩ := bind_ok success
  obtain ⟨b, _, success⟩ := bind_ok success
  dsimp only at success
  split at success
  · obtain ⟨tokenIn, given, success⟩ := bind_ok success
    obtain ⟨tokenOut, gotten, success⟩ := bind_ok success
    cases success
    exact ⟨Coin.isWhole_of_parse given, CoinText.isWhole_of_toCoin gotten⟩
  split at success
  · obtain ⟨tokenIn, given, success⟩ := bind_ok success
    obtain ⟨tokenOut, gotten, success⟩ := bind_ok success
    cases success
    exact ⟨contractInput_whole given, CoinText.isWhole_of_toCoin gotten⟩
  · cases success

/-! #### Over several routes -/

theorem totalAmount_whole {routes : List SplitRoute} {total : Decimal}
    (success : totalAmount routes = .ok total) : total.IsWhole := by
  obtain ⟨amounts, read, success⟩ := bind_ok success
  cases success
  refine Decimal.isWhole_foldl_add (Decimal.isWhole_ofInt 0) fun amount member => ?_
  obtain ⟨route, _, parsed⟩ := mapM_ok read amount member
  exact Coin.isWhole_of_parseAmount parsed

theorem splitAmount_whole {typeUrl kind : String} {entry : LogEntry} {amount : Decimal}
    (success : splitAmount typeUrl kind entry = .ok amount) : amount.IsWhole := by
  obtain ⟨e, _, success⟩ := bind_ok success
  exact Coin.isWhole_of_parseAmount success

theorem splitIn_whole : Reader.IsWhole splitIn := by
  intro typeUrl message log s success
  obtain ⟨entry, _, success⟩ := bind_ok success
  obtain ⟨b, _, success⟩ := bind_ok success
  dsimp only at success
  split at success
  · cases success
  · obtain ⟨total, summed, success⟩ := bind_ok success
    obtain ⟨amount, told, success⟩ := bind_ok success
    cases success
    exact ⟨totalAmount_whole summed, splitAmount_whole told⟩

theorem splitOutTotals_whole {typeUrl : String} {denom final : Option String} {total sum : Decimal}
    {routes : List SplitRoute} (whole : total.IsWhole)
    (success : splitOutTotals typeUrl denom total routes = .ok (final, sum)) : sum.IsWhole := by
  induction routes generalizing denom total with
  | nil =>
    cases success
    exact whole
  | cons r rest ih =>
    unfold splitOutTotals at success
    have next {known : Option String}
        (later : (Coin.parseAmount r.amount >>= fun amount =>
          splitOutTotals typeUrl known (total + amount) rest) = .ok (final, sum)) : sum.IsWhole := by
      obtain ⟨amount, read, later⟩ := bind_ok later
      exact ih (whole.add (Coin.isWhole_of_parseAmount read)) later
    dsimp only at success
    split at success
    · obtain ⟨known, _, success⟩ := bind_ok success
      exact next success
    · obtain ⟨known, _, success⟩ := bind_ok success
      exact next success
    · split at success
      · obtain ⟨known, _, success⟩ := bind_ok success
        exact next success
      · cases success

theorem splitOut_whole : Reader.IsWhole splitOut := by
  intro typeUrl message log s success
  obtain ⟨entry, _, success⟩ := bind_ok success
  obtain ⟨b, _, success⟩ := bind_ok success
  obtain ⟨⟨denom, total⟩, summed, success⟩ := bind_ok success
  dsimp only at success
  split at success
  · cases success
  · obtain ⟨amount, told, success⟩ := bind_ok success
    cases success
    exact ⟨splitAmount_whole told, splitOutTotals_whole (Decimal.isWhole_ofInt 0) summed⟩

theorem readers_whole : ∀ entry ∈ readers, entry.2.IsWhole := by
  simp only [readers, List.forall_mem_cons]
  exact ⟨exactIn_whole, exactOut_whole, splitIn_whole, splitOut_whole, List.forall_mem_nil _⟩

end Routed

/-! ### Positions and batches -/

theorem Position.coinsOf_whole {direction : Direction} {source : Source} {typeUrl account : String}
    {entry : LogEntry} {coins : List Coin}
    (success : coinsOf direction source typeUrl account entry = .ok coins) : ∀ c ∈ coins, c.IsWhole := by
  unfold coinsOf at success
  cases source with
  | incentiveTotals =>
    obtain ⟨lists, read, success⟩ := bind_ok success
    cases success
    exact Coin.isWhole_of_lists read
  | coinEvents checksAction =>
    cases direction with
    | into =>
      dsimp only at success
      split at success
      · cases success
      · exact isWhole_of_coinsFollowing success
    | out =>
      dsimp only at success
      split at success
      · cases success
      · exact isWhole_of_coinsFollowing success

theorem Position.read_whole {direction : Direction} {source : Source} {typeUrl : String}
    {message : Json} {log : Option LogEntry} {change : Change}
    (success : read direction source typeUrl message log = .ok change) :
    ∀ c ∈ change.coins, c.IsWhole := by
  have rest {entry : LogEntry} (later : (body senderOfJson? message >>= fun account =>
      coinsOf direction source typeUrl account entry >>= fun coins =>
        .ok ⟨account, coins.filter fun c => c.amount.isPositive⟩) = .ok change) :
      ∀ c ∈ change.coins, c.IsWhole := by
    obtain ⟨account, _, later⟩ := bind_ok later
    obtain ⟨coins, told, later⟩ := bind_ok later
    cases later
    exact fun c member => coinsOf_whole told c (List.mem_of_mem_filter member)
  unfold read at success
  dsimp only at success
  split at success
  · obtain ⟨entry, _, success⟩ := bind_ok success
    exact rest success
  · obtain ⟨entry, _, success⟩ := bind_ok success
    exact rest success

theorem Batch.read_whole {typeUrl : String} {message : Json} {h : HandOver}
    (success : read typeUrl message = .ok h) : ∀ c ∈ h.coins, c.IsWhole := by
  rw [read] at success
  split at success
  · cases success
  · obtain ⟨⟨account, texts⟩, _, success⟩ := bind_ok success
    obtain ⟨coins, read, success⟩ := bind_ok success
    cases success
    exact isWhole_of_coinsOfTexts read

end TaxLedger.Pool
