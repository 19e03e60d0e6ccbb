import Mathlib.Data.List.Forall2
import TaxLedger.Proofs.Event.Listed
import TaxLedger.Proofs.Message.Registry
import TaxLedger.Proofs.Pool.Liquidity
import TaxLedger.Transaction

/-!
Exits that swap inside. An exit to one token may leave to all tokens of the pool and swap the others. Where
events are tagged with their messages the swaps arrive as one event, and the reader makes one swap of them,
from the first input to the last output: every swap is recorded exactly if there is at most one
(`inner_swaps_recorded_iff`), and of several the amounts in between are lost (`inner_swaps_lost`).
-/

namespace TaxLedger.Pool

open Message

structure TellsSwap (e : Event) (given gotten : Coin) : Prop where
  given : ∃ text, e.values "tokens_in" = [text] ∧ Coin.parse text = .ok given
  gotten : ∃ text, e.values "tokens_out" = [text] ∧ Coin.parse text = .ok gotten

/-- The one swap that stands for swaps behind each other: the first input for the last output. -/
def endToEnd (account : String) : List (Coin × Coin) → List Movement
  | [] => []
  | first :: rest => [Movement.swap account first.1 (rest.getLast?.getD first).2]

/-! ### Swaps in one event -/

section
variable {kind : String} {events : List Event} {swaps : List (Coin × Coin)}

theorem values_of_told (told : List.Forall₂ (fun e s => TellsSwap e s.1 s.2) events swaps) :
    List.Forall₂ (fun text s => Coin.parse text = .ok s.1)
        ((joined kind events).values "tokens_in") swaps ∧
      List.Forall₂ (fun text s => Coin.parse text = .ok s.2)
        ((joined kind events).values "tokens_out") swaps := by
  rw [values_joined, values_joined]
  induction told with
  | nil => exact ⟨.nil, .nil⟩
  | cons first _ ih =>
    obtain ⟨given, oneIn, readIn⟩ := first.given
    obtain ⟨gotten, oneOut, readOut⟩ := first.gotten
    rw [List.flatMap_cons, List.flatMap_cons, oneIn, oneOut]
    exact ⟨.cons readIn ih.1, .cons readOut ih.2⟩

theorem head?_related {α β : Type} {R : α → β → Prop} {xs : List α} {ys : List β}
    (related : List.Forall₂ R xs ys) {y : β} (first : ys.head? = some y) :
    ∃ x, xs.head? = some x ∧ R x y := by
  cases related with
  | nil => cases first
  | cons head _ =>
    cases first
    exact ⟨_, rfl, head⟩

theorem swapOfEvent_joined {first : Coin × Coin} {rest : List (Coin × Coin)}
    (told : List.Forall₂ (fun e s => TellsSwap e s.1 s.2) events (first :: rest)) (account : String) :
    swapOfEvent account (joined kind events) =
      .ok (Movement.swap account first.1 (rest.getLast?.getD first).2) := by
  obtain ⟨given, gotten⟩ := @values_of_told kind _ _ told
  obtain ⟨input, atFront, readIn⟩ := head?_related given List.head?_cons
  -- Seen from behind, the last output comes first.
  have lastSwap : (first :: rest).reverse.head? = some (rest.getLast?.getD first) := by
    rw [List.head?_reverse, List.getLast?_cons]
  obtain ⟨output, atBack, readOut⟩ := head?_related (List.rel_reverse gotten) lastSwap
  rw [List.head?_reverse] at atBack
  rw [swapOfEvent, Event.first, Event.find?, Event.last, atFront, atBack, Option.getD_some,
    Option.getD_some, readIn, readOut]
  rfl

/-- Of the swaps of a message the merged form of its entry tells one, from end to end. -/
theorem mapM_swapOfEvent_merged {l : LogEntry}
    (told : List.Forall₂ (fun e s => TellsSwap e s.1 s.2) (l.ofKind kind) swaps) (account : String) :
    (l.merged.ofKind kind).mapM (swapOfEvent account) = .ok (endToEnd account swaps) := by
  rw [ofKind_merged]
  cases swaps with
  | nil =>
    rw [if_pos (List.forall₂_nil_right_iff.mp told)]
    rfl
  | cons first rest =>
    have some : l.ofKind kind ≠ [] := by
      intro none
      rw [none] at told
      cases told
    rw [if_neg some, List.mapM_cons, swapOfEvent_joined told]
    rfl

end

theorem length_endToEnd_le (account : String) (swaps : List (Coin × Coin)) :
    (endToEnd account swaps).length ≤ 1 := by
  cases swaps with
  | nil => exact Nat.zero_le 1
  | cons first rest => exact Nat.le_refl 1

theorem endToEnd_eq_iff (account : String) (swaps : List (Coin × Coin)) :
    endToEnd account swaps = swaps.map (fun s => Movement.swap account s.1 s.2) ↔
      swaps.length ≤ 1 := by
  constructor
  · intro same
    have level := congrArg List.length same
    rw [List.length_map] at level
    exact level ▸ length_endToEnd_le account swaps
  · intro few
    match swaps, few with
    | [], _ => rfl
    | [_], _ => rfl

/-! ### Exits -/

theorem exitShares_others {typeUrl : String} {message : Json} {entry : LogEntry} {l : Liquidity}
    (success : exitShares typeUrl message entry = .ok l) :
    (entry.ofKind "token_swapped").mapM (swapOfEvent l.account) = .ok l.others := by
  obtain ⟨sender, _, success⟩ := bind_ok success
  obtain ⟨shares, _, success⟩ := bind_ok success
  obtain ⟨⟨account, tokens⟩, _, success⟩ := bind_ok success
  obtain ⟨swaps, read, success⟩ := bind_ok success
  cases success
  exact read

/-- What is decoded of an exit is what its one reader tells. -/
theorem exit_decoded {contracts : Contract.Registry} {message : Json} {log : Option LogEntry}
    {decoded : Decoded}
    (success : (Registry.standard contracts).decode exitSharesType message log = .ok decoded) :
    ∃ entry l, log = some entry ∧ exitShares exitSharesType message entry = .ok l ∧
      decoded.movements = l.legs .withdrawal ++ l.others := by
  have heard : (Registry.standard contracts).isIgnored exitSharesType = false := rfl
  have only : (Registry.standard contracts).decodersFor exitSharesType =
      [decoder exitSharesType "burn" (liquidity .withdrawal exitShares)] := rfl
  rw [Registry.decode_eq_read heard only] at success
  obtain ⟨reading, read, rfl⟩ := map_ok success
  obtain ⟨outcome, told, rfl⟩ := map_ok read
  obtain ⟨entry, acts, told⟩ := bind_ok told
  obtain ⟨l, found, rfl⟩ := map_ok told
  exact ⟨entry, l, (requireAction_eq_ok.mp acts).1, found, rfl⟩

/-- An exit of a message whose events are tagged moves the shares and then, of all the swaps inside, one
from the first input to the last output. The movements hold every swap, in order, exactly if there is at
most one. -/
theorem inner_swaps_recorded_iff {contracts : Contract.Registry} {tx : Transaction} {index : Int}
    {message : Json} {decoded : Decoded} {swaps : List (Coin × Coin)} (flat : tx.result.logs = [])
    (told : List.Forall₂ (fun e s => TellsSwap e s.1 s.2)
      ((eventsOf index tx.result.events).filter fun e => e.kind == "token_swapped") swaps)
    (success : (Registry.standard contracts).decode exitSharesType message
      (LogEntry.forMessage? tx.messageLogs index) = .ok decoded) :
    ∃ entry l, LogEntry.forMessage? tx.messageLogs index = some entry ∧
      exitShares exitSharesType message entry = .ok l ∧
      decoded.movements = l.legs .withdrawal ++ endToEnd l.account swaps ∧
      (decoded.movements =
          l.legs .withdrawal ++ swaps.map (fun s => Movement.swap l.account s.1 s.2) ↔
        swaps.length ≤ 1) := by
  obtain ⟨entry, l, found, read, moved⟩ := exit_decoded success
  have merged : entry = (listed index tx.result.events).merged := by
    have logs : tx.messageLogs = groupByMessage tx.result.events := by
      rw [Transaction.messageLogs, flat]
      rfl
    rw [logs, forMessage?_gathered] at found
    split at found
    · cases found
    · exact (Option.some.inj found).symm
  have untagged : List.Forall₂ (fun e s => TellsSwap e s.1 s.2)
      ((listed index tx.result.events).ofKind "token_swapped") swaps := by
    rw [listed, ofKind_map_untagged, List.forall₂_map_left_iff]
    refine told.imp fun e s tells => ?_
    have input := values_untagged (by decide : "tokens_in" ≠ messageTag) e
    have output := values_untagged (by decide : "tokens_out" ≠ messageTag) e
    exact ⟨input ▸ tells.given, output ▸ tells.gotten⟩
  have others : l.others = endToEnd l.account swaps := by
    have swapped := exitShares_others read
    rw [merged, mapM_swapOfEvent_merged untagged] at swapped
    exact (Except.ok.inj swapped).symm
  rw [others] at moved
  refine ⟨entry, l, found, read, moved, ?_⟩
  rw [moved, List.append_cancel_left_eq, endToEnd_eq_iff]

def firstTag : Attribute := ⟨messageTag, "0"⟩

/-- An exit from a pool of three tokens into one of them, with the swaps that were made inside. -/
def swappingExit (swaps : List Event) : Transaction where
  signed.messages := [.obj [("@type", .str exitSharesType), ("sender", .str "osmo1s")]]
  result.events := [
    ⟨"message", [⟨"action", exitSharesType⟩, firstTag]⟩,
    ⟨"burn", [⟨"amount", "12gamm/pool/1"⟩, firstTag]⟩,
    ⟨"pool_exited", [⟨"sender", "osmo1s"⟩, ⟨"tokens_out", "2uatom,3uion,4uosmo"⟩, firstTag]⟩] ++ swaps

def decodedExit (tx : Transaction) : Except DecodeError Decoded :=
  (Registry.standard {}).decode exitSharesType (tx.signed.messages.headD .null)
    (LogEntry.forMessage? tx.messageLogs 0)

def exitLegs : List Movement :=
  [Movement.swap "osmo1s" ⟨4, "gamm/pool/1"⟩ ⟨2, "uatom"⟩,
    Movement.swap "osmo1s" ⟨4, "gamm/pool/1"⟩ ⟨3, "uion"⟩,
    Movement.swap "osmo1s" ⟨4, "gamm/pool/1"⟩ ⟨4, "uosmo"⟩]

def atomSwap : Event :=
  ⟨"token_swapped", [⟨"tokens_in", "2uatom"⟩, ⟨"tokens_out", "5uosmo"⟩, firstTag]⟩

def ionSwap : Event :=
  ⟨"token_swapped", [⟨"tokens_in", "3uion"⟩, ⟨"tokens_out", "6uosmo"⟩, firstTag]⟩

theorem atomSwap_tells : TellsSwap atomSwap ⟨2, "uatom"⟩ ⟨5, "uosmo"⟩ :=
  ⟨⟨"2uatom", rfl, rfl⟩, ⟨"5uosmo", rfl, rfl⟩⟩

theorem ionSwap_tells : TellsSwap ionSwap ⟨3, "uion"⟩ ⟨6, "uosmo"⟩ :=
  ⟨⟨"3uion", rfl, rfl⟩, ⟨"6uosmo", rfl, rfl⟩⟩

/-- A single swap is recorded as it was made. -/
theorem inner_swaps_recorded_iff_of_single :
    ∃ (decoded : Decoded) (l : Liquidity), decodedExit (swappingExit [atomSwap]) = .ok decoded ∧
      decoded.movements =
        l.legs .withdrawal ++ [Movement.swap l.account ⟨2, "uatom"⟩ ⟨5, "uosmo"⟩] := by
  have told : List.Forall₂ (fun e s => TellsSwap e s.1 s.2)
      ((eventsOf 0 (swappingExit [atomSwap]).result.events).filter fun e => e.kind == "token_swapped")
      [(⟨2, "uatom"⟩, ⟨5, "uosmo"⟩)] := .cons atomSwap_tells .nil
  obtain ⟨decoded, success⟩ : ∃ decoded, decodedExit (swappingExit [atomSwap]) = .ok decoded := ⟨_, rfl⟩
  obtain ⟨_, l, _, _, _, whole⟩ := inner_swaps_recorded_iff rfl told success
  exact ⟨decoded, l, success, whole.mpr (by decide)⟩

/-- Of two swaps the output of the first and the input of the second are in no movement. -/
theorem inner_swaps_lost :
    List.Forall₂ (fun e s => TellsSwap e s.1 s.2)
      ((eventsOf 0 (swappingExit [atomSwap, ionSwap]).result.events).filter fun e =>
        e.kind == "token_swapped")
      [(⟨2, "uatom"⟩, ⟨5, "uosmo"⟩), (⟨3, "uion"⟩, ⟨6, "uosmo"⟩)] ∧
    (decodedExit (swappingExit [atomSwap, ionSwap])).map Decoded.movements =
      .ok (exitLegs ++ [Movement.swap "osmo1s" ⟨2, "uatom"⟩ ⟨6, "uosmo"⟩]) ∧
    exitLegs ++ [Movement.swap "osmo1s" ⟨2, "uatom"⟩ ⟨6, "uosmo"⟩] ≠
      exitLegs ++ [Movement.swap "osmo1s" ⟨2, "uatom"⟩ ⟨5, "uosmo"⟩,
        Movement.swap "osmo1s" ⟨3, "uion"⟩ ⟨6, "uosmo"⟩] :=
  ⟨.cons atomSwap_tells (.cons ionSwap_tells .nil), by rfl, by decide⟩

end TaxLedger.Pool
