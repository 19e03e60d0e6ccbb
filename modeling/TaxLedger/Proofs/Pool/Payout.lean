import TaxLedger.Pool.Routed
import TaxLedger.Proofs.Event.Listed
import TaxLedger.Proofs.Message.Merged

/-!
Swaps whose output is told by transfers. Of a log that lists its transfer events one by one the reader
sees the last groups of the last two; of a log that is gathered from tagged events it sees the last group
of all. The two readings differ exactly where a payout is followed by groups that do not pay in the last
event, or by two events without groups (`gathered_alike_iff`).
-/

namespace TaxLedger.Pool.Routed

open Message

/-! ### What the reader sees of an entry -/

def asked? (message : Json) : Option (String × Coin × InHop) := do
  let b ← (body inBodyOfJson? message).toOption
  let tokenIn ← b.tokenIn.toCoin.toOption
  let hop ← b.hops.getLast?
  return (b.sender, tokenIn, hop)

def toldOutput (hop : InHop) (swaps : List Event) : Except DecodeError (Option Coin) :=
  match swaps.getLast? with
  | some e => outputOfSwapEvent hop e
  | none => .ok none

/-- The first payout of events, if no event before it is broken. -/
def foundIn (recipient denom : String) : List Event → Option Coin
  | [] => none
  | e :: rest =>
    match payoutTo recipient denom e with
    | .error _ => none
    | .ok (some coin) => some coin
    | .ok none => foundIn recipient denom rest

def toldOr (told : Except DecodeError (Option Coin)) (found : Option Coin) : Option Coin :=
  match told with
  | .error _ => none
  | .ok (some coin) => some coin
  | .ok none => found

def outputIn (sender : String) (hop : InHop) (entry : LogEntry) : Option Coin :=
  toldOr (toldOutput hop (entry.ofKind "token_swapped"))
    (foundIn sender hop.denomOut ((entry.ofKind "transfer").reverse.take transferLookback))

theorem firstPayout_toOption (typeUrl recipient denom : String) (candidates : List (Event × Nat)) :
    (firstPayout typeUrl recipient denom candidates).toOption.join =
      foundIn recipient denom (candidates.map Prod.fst) := by
  induction candidates with
  | nil => rfl
  | cons head rest ih =>
    obtain ⟨e, place⟩ := head
    rw [List.map_cons, firstPayout, foundIn]
    cases payoutTo recipient denom e with
    | error problem => rfl
    | ok paid =>
      cases paid with
      | none => exact ih
      | some coin => rfl

theorem firstPayout_lookback (typeUrl recipient denom : String) (transfers : List Event) :
    (firstPayout typeUrl recipient denom
        (transfers.zipIdx.reverse.take transferLookback)).toOption.join =
      foundIn recipient denom (transfers.reverse.take transferLookback) := by
  rw [firstPayout_toOption, List.map_take, List.map_reverse, List.zipIdx_map_fst]

theorem exactIn_toOption (typeUrl : String) (message : Json) (entry : LogEntry) :
    (exactIn typeUrl message (some entry)).toOption =
      if entry.hasAction typeUrl then
        (asked? message).bind fun (sender, tokenIn, hop) =>
          (outputIn sender hop entry).map fun out => some ⟨sender, tokenIn, out⟩
      else none := by
  rw [exactIn, requireAction_bind]
  by_cases named : entry.hasAction typeUrl = true
  · rw [if_pos named, if_pos named, asked?]
    cases body inBodyOfJson? message with
    | error problem => rfl
    | ok b =>
      simp only [bind, Except.bind, Except.toOption, Option.bind_some]
      cases b.tokenIn.toCoin with
      | error problem => rfl
      | ok tokenIn =>
        cases b.hops.getLast? with
        | none => rfl
        | some hop =>
          have found := firstPayout_lookback typeUrl b.sender hop.denomOut (entry.ofKind "transfer")
          simp only [Option.bind_some, pure, Except.pure, outputIn, toldOr, toldOutput, ← found]
          generalize firstPayout typeUrl b.sender hop.denomOut _ = transfers
          cases (entry.ofKind "token_swapped").getLast? with
          | none => rcases transfers with problem | _ | out <;> rfl
          | some e =>
            dsimp only
            rcases outputOfSwapEvent hop e with problem | _ | out
            · rfl
            · rcases transfers with problem | _ | out <;> rfl
            · rfl
  · rw [if_neg named, if_neg named]
    rfl

/-! ### Payouts in transfer events -/

def Pays (recipient denom : String) (e : Event) : Prop :=
  ∃ coin, payoutTo recipient denom e = .ok (some coin)

def Silent (e : Event) : Prop := Transfer.listOf e = []

/-- The last event but one pays, and the last one has groups that do not pay. -/
def Buried (recipient denom : String) (transfers : List Event) : Prop :=
  ∃ front e last, transfers = front ++ [e, last] ∧ Pays recipient denom e ∧ ¬Silent last ∧
    payoutTo recipient denom last = .ok none

/-- The last event that has a group pays, and more events follow than the reader looks back. -/
def OutOfReach (recipient denom : String) (transfers : List Event) : Prop :=
  ∃ front e later, transfers = front ++ e :: later ∧ Pays recipient denom e ∧
    transferLookback ≤ later.length ∧ ∀ x ∈ later, Silent x

section
variable {recipient denom : String} {events transfers front later : List Event} {e : Event}

theorem foundIn_congr {e e' : Event} (same : payoutTo recipient denom e = payoutTo recipient denom e')
    (rest : List Event) :
    foundIn recipient denom (e :: rest) = foundIn recipient denom (e' :: rest) := by
  rw [foundIn, foundIn, same]

theorem foundIn_of_broken {problem : DecodeError}
    (broken : payoutTo recipient denom e = .error problem) (rest : List Event) :
    foundIn recipient denom (e :: rest) = none := by
  rw [foundIn, broken]

theorem foundIn_of_paid {coin : Coin} (paid : payoutTo recipient denom e = .ok (some coin))
    (rest : List Event) : foundIn recipient denom (e :: rest) = some coin := by
  rw [foundIn, paid]

theorem foundIn_of_unpaid (unpaid : payoutTo recipient denom e = .ok none) (rest : List Event) :
    foundIn recipient denom (e :: rest) = foundIn recipient denom rest := by
  rw [foundIn, unpaid]

theorem foundIn_eq_none (unpaid : ∀ e ∈ events, payoutTo recipient denom e = .ok none) :
    foundIn recipient denom events = none := by
  induction events with
  | nil => rfl
  | cons e rest ih =>
    rw [foundIn_of_unpaid (unpaid e List.mem_cons_self)]
    exact ih fun x member => unpaid x (List.mem_cons_of_mem _ member)

/-- Only the last group counts. -/
theorem payoutTo_congr {e e' : Event} {groups groups' : List Transfer}
    (read : Transfer.ofEvent e = .ok groups) (read' : Transfer.ofEvent e' = .ok groups')
    (last : groups.getLast? = groups'.getLast?) :
    payoutTo recipient denom e = payoutTo recipient denom e' := by
  simp only [payoutTo, read, read', bind, Except.bind, last]

theorem payoutTo_of_no_groups (read : Transfer.ofEvent e = .ok []) :
    payoutTo recipient denom e = .ok none := by
  rw [payoutTo, read]
  rfl

theorem payoutTo_of_silent (readable : Transfer.Readable events) (member : e ∈ events)
    (silent : Silent e) : payoutTo recipient denom e = .ok none := by
  have read := readable e member
  rw [silent] at read
  exact payoutTo_of_no_groups read

theorem not_silent_of_pays (pays : Pays recipient denom e)
    (read : Transfer.ofEvent e = .ok (Transfer.listOf e)) : ¬Silent e := by
  intro silent
  obtain ⟨coin, paid⟩ := pays
  rw [silent] at read
  rw [payoutTo_of_no_groups read] at paid
  cases paid

/-- Events are silent, or there is a last one that is not. -/
theorem silent_or_last (events : List Event) :
    (∀ x ∈ events, Silent x) ∨
      ∃ front e later, events = front ++ e :: later ∧ ¬Silent e ∧ ∀ x ∈ later, Silent x := by
  induction events with
  | nil => exact .inl fun _ member => by cases member
  | cons x rest ih =>
    rcases ih with silent | ⟨front, e, later, rfl, told, silent⟩
    · by_cases first : Silent x
      · exact .inl (List.forall_mem_cons.mpr ⟨first, silent⟩)
      · exact .inr ⟨[], x, rest, rfl, first, silent⟩
    · exact .inr ⟨x :: front, e, later, rfl, told, silent⟩

theorem payoutTo_joined_of_silent (readable : Transfer.Readable events)
    (silent : ∀ x ∈ events, Silent x) :
    payoutTo recipient denom (joined "transfer" events) = .ok none := by
  have read := Transfer.ofEvent_joined readable
  rw [List.flatMap_eq_nil_iff.mpr silent] at read
  exact payoutTo_of_no_groups read

/-- Events put together pay what the last of them pays that has a group. -/
theorem payoutTo_joined (recipient denom : String)
    (readable : Transfer.Readable (front ++ e :: later)) (told : ¬Silent e)
    (silent : ∀ x ∈ later, Silent x) :
    payoutTo recipient denom (joined "transfer" (front ++ e :: later)) =
      payoutTo recipient denom e := by
  have own := readable e (List.mem_append_right _ List.mem_cons_self)
  refine payoutTo_congr (Transfer.ofEvent_joined readable) own ?_
  rw [List.flatMap_append, List.flatMap_cons, List.flatMap_eq_nil_iff.mpr silent, List.append_nil]
  exact List.getLast?_append_of_ne_nil _ told

theorem lookback_pair (front : List Event) (e last : Event) :
    (front ++ [e, last]).reverse.take transferLookback = [last, e] := by
  rw [List.reverse_append]
  rfl

theorem foundIn_of_buried (readable : Transfer.Readable transfers)
    (buried : Buried recipient denom transfers) :
    foundIn recipient denom [joined "transfer" transfers] = none ∧
      ∃ coin, foundIn recipient denom (transfers.reverse.take transferLookback) = some coin := by
  obtain ⟨front, e, last, rfl, ⟨coin, paid⟩, told, unpaid⟩ := buried
  constructor
  · rw [List.append_cons] at readable ⊢
    have whole := payoutTo_joined recipient denom readable told (List.forall_mem_nil _)
    rw [foundIn_of_unpaid (whole.trans unpaid), foundIn]
  · rw [lookback_pair, foundIn_of_unpaid unpaid]
    exact ⟨coin, foundIn_of_paid paid []⟩

theorem foundIn_lookback_of_silent (readable : Transfer.Readable (front ++ later))
    (long : transferLookback ≤ later.length) (silent : ∀ x ∈ later, Silent x) :
    foundIn recipient denom ((front ++ later).reverse.take transferLookback) = none := by
  rw [List.reverse_append, List.take_append_of_le_length (by rwa [List.length_reverse])]
  refine foundIn_eq_none fun x member => ?_
  have inside : x ∈ later := List.mem_reverse.mp (List.mem_of_mem_take member)
  exact payoutTo_of_silent readable (List.mem_append_right _ inside) (silent x inside)

theorem foundIn_of_outOfReach (readable : Transfer.Readable transfers)
    (lost : OutOfReach recipient denom transfers) :
    (∃ coin, foundIn recipient denom [joined "transfer" transfers] = some coin) ∧
      foundIn recipient denom (transfers.reverse.take transferLookback) = none := by
  obtain ⟨front, e, later, rfl, pays, long, silent⟩ := lost
  have told := not_silent_of_pays pays (readable e (List.mem_append_right _ List.mem_cons_self))
  have whole := payoutTo_joined recipient denom readable told silent
  obtain ⟨coin, paid⟩ := pays
  refine ⟨⟨coin, foundIn_of_paid (whole.trans paid) []⟩, ?_⟩
  rw [List.append_cons] at readable ⊢
  exact foundIn_lookback_of_silent readable long silent

/-- An event with groups that buries no payout decides alone. -/
theorem foundIn_of_last (told : ¬Silent e) (clear : ¬Buried recipient denom (front ++ [e])) :
    foundIn recipient denom ((front ++ [e]).reverse.take transferLookback) =
      foundIn recipient denom [e] := by
  rcases List.eq_nil_or_concat' front with rfl | ⟨others, x, rfl⟩
  · rfl
  · rw [← List.append_cons] at clear ⊢
    rw [lookback_pair]
    rcases paid : payoutTo recipient denom e with problem | _ | coin
    · rw [foundIn_of_broken paid, foundIn_of_broken paid]
    · rw [foundIn_of_unpaid paid, foundIn_of_unpaid paid]
      rcases before : payoutTo recipient denom x with problem | _ | coin
      · exact foundIn_of_broken before []
      · exact foundIn_of_unpaid before []
      · exact absurd ⟨others, x, e, rfl, ⟨coin, before⟩, told, paid⟩ clear
    · rw [foundIn_of_paid paid, foundIn_of_paid paid]

theorem foundIn_alike (readable : Transfer.Readable transfers)
    (clear : ¬Buried recipient denom transfers) (near : ¬OutOfReach recipient denom transfers) :
    foundIn recipient denom [joined "transfer" transfers] =
      foundIn recipient denom (transfers.reverse.take transferLookback) := by
  rcases silent_or_last transfers with silent | ⟨front, e, later, rfl, told, silent⟩
  · have each : ∀ x ∈ transfers.reverse.take transferLookback,
        payoutTo recipient denom x = .ok none := by
      intro x member
      have inside : x ∈ transfers := List.mem_reverse.mp (List.mem_of_mem_take member)
      exact payoutTo_of_silent readable inside (silent x inside)
    rw [foundIn_of_unpaid (payoutTo_joined_of_silent readable silent), foundIn_eq_none each, foundIn]
  · have whole := payoutTo_joined recipient denom readable told silent
    rw [foundIn_congr whole []]
    match later with
    | [] => exact (foundIn_of_last told clear).symm
    | [last] =>
      have unpaid : payoutTo recipient denom last = .ok none :=
        payoutTo_of_silent readable (by simp) (silent last (by simp))
      rw [lookback_pair, foundIn_of_unpaid unpaid]
    | x :: y :: rest =>
      have long : transferLookback ≤ (x :: y :: rest).length := by
        rw [transferLookback, List.length_cons, List.length_cons]
        omega
      rw [List.append_cons] at readable ⊢
      rw [foundIn_lookback_of_silent readable long silent]
      rcases paid : payoutTo recipient denom e with problem | _ | coin
      · exact foundIn_of_broken paid []
      · exact foundIn_of_unpaid paid []
      · exact absurd ⟨front, e, _, rfl, ⟨coin, paid⟩, long, silent⟩ near

theorem foundIn_alike_iff (readable : Transfer.Readable transfers) :
    foundIn recipient denom [joined "transfer" transfers] =
        foundIn recipient denom (transfers.reverse.take transferLookback) ↔
      ¬Buried recipient denom transfers ∧ ¬OutOfReach recipient denom transfers := by
  constructor
  · intro same
    constructor
    · intro buried
      obtain ⟨nothing, coin, found⟩ := foundIn_of_buried readable buried
      rw [nothing, found] at same
      cases same
    · intro lost
      obtain ⟨⟨coin, found⟩, nothing⟩ := foundIn_of_outOfReach readable lost
      rw [nothing, found] at same
      cases same
  · rintro ⟨clear, near⟩
    exact foundIn_alike readable clear near

end

/-! ### Gathered events -/

structure TaggedAs (index : Int) (events flat : List Event) : Prop where
  same : flat.map Event.untagged = events.map Event.untagged
  own : ∀ e ∈ flat, e.messageIndex? = some index

/-- A swap whose output is told by transfers, if it is told. -/
structure FallsBack (typeUrl : String) (message : Json) (entry : LogEntry) (sender : String)
    (hop : InHop) : Prop where
  action : entry.hasAction typeUrl = true
  asks : ∃ tokenIn, asked? message = some (sender, tokenIn, hop)
  untold : toldOutput hop (entry.ofKind "token_swapped") = .ok none

theorem payoutTo_untagged (recipient denom : String) (e : Event) :
    payoutTo recipient denom e.untagged = payoutTo recipient denom e := by
  rw [payoutTo, payoutTo, ofEvent_untagged]

theorem toldOutput_untagged (hop : InHop) (swaps : List Event) :
    toldOutput hop (swaps.map Event.untagged) = toldOutput hop swaps := by
  rw [toldOutput, toldOutput, List.getLast?_map]
  cases swaps.getLast? with
  | none => rfl
  | some e =>
    have output := last_untagged (by decide : "tokens_out" ≠ messageTag) e
    have pool := last_untagged (by decide : "pool_id" ≠ messageTag) e
    simp only [Option.map_some, outputOfSwapEvent, output, pool]

section
variable {index : Int} {events flat : List Event}

theorem forMessage?_taggedAs (tagged : TaggedAs index events flat) :
    LogEntry.forMessage? (groupByMessage flat) index =
      if events = [] then none
      else some (⟨index, events.map Event.untagged⟩ : LogEntry).merged := by
  have all : eventsOf index flat = flat :=
    List.filter_eq_self.mpr fun e member => by simp [tagged.own e member]
  have none : flat = [] ↔ events = [] := by
    rw [← List.map_eq_nil_iff (f := Event.untagged), tagged.same, List.map_eq_nil_iff]
  rw [forMessage?_gathered, listed, all, tagged.same]
  simp only [none]

theorem hasAction_gathered (typeUrl : String)
    (single : ((⟨index, events⟩ : LogEntry).ofKind "message").length ≤ 1) :
    (⟨index, events.map Event.untagged⟩ : LogEntry).merged.hasAction typeUrl =
      (⟨index, events⟩ : LogEntry).hasAction typeUrl := by
  rw [hasAction_eq, hasAction_eq, ofKind_gathered_of_single single, firstAction_untagged]

theorem outputIn_gathered (sender : String) (hop : InHop)
    (single : ((⟨index, events⟩ : LogEntry).ofKind "token_swapped").length ≤ 1) :
    outputIn sender hop (⟨index, events.map Event.untagged⟩ : LogEntry).merged =
      toldOr (toldOutput hop ((⟨index, events⟩ : LogEntry).ofKind "token_swapped"))
        (foundIn sender hop.denomOut
          [joined "transfer" ((⟨index, events⟩ : LogEntry).ofKind "transfer")]) := by
  rw [outputIn, ofKind_gathered_of_single single, toldOutput_untagged, ofKind_merged,
    ofKind_map_untagged]
  by_cases none : (⟨index, events⟩ : LogEntry).ofKind "transfer" = []
  · rw [none]
    rfl
  · rw [if_neg (by simpa using none), joined_untagged]
    have whole := foundIn_congr (payoutTo_untagged sender hop.denomOut
      (joined "transfer" ((⟨index, events⟩ : LogEntry).ofKind "transfer"))) []
    exact congrArg _ whole

theorem outputIn_alike_iff (sender : String) (hop : InHop)
    (single : ((⟨index, events⟩ : LogEntry).ofKind "token_swapped").length ≤ 1)
    (readable : Transfer.Readable ((⟨index, events⟩ : LogEntry).ofKind "transfer")) :
    outputIn sender hop (⟨index, events.map Event.untagged⟩ : LogEntry).merged =
        outputIn sender hop ⟨index, events⟩ ↔
      (toldOutput hop ((⟨index, events⟩ : LogEntry).ofKind "token_swapped") = .ok none →
        ¬Buried sender hop.denomOut ((⟨index, events⟩ : LogEntry).ofKind "transfer") ∧
        ¬OutOfReach sender hop.denomOut ((⟨index, events⟩ : LogEntry).ofKind "transfer")) := by
  rw [outputIn_gathered sender hop single, outputIn, ← foundIn_alike_iff readable]
  rcases toldOutput hop ((⟨index, events⟩ : LogEntry).ofKind "token_swapped") with problem | _ | coin
  · exact iff_of_true rfl nofun
  · exact ⟨fun same _ => same, fun same => same rfl⟩
  · exact iff_of_true rfl nofun

/-- The two readings find the same swap or both fail, unless the output is left to the transfers and a
payout is buried or out of reach there. -/
theorem gathered_alike_iff {typeUrl : String} {message : Json} (tagged : TaggedAs index events flat)
    (messages : ((⟨index, events⟩ : LogEntry).ofKind "message").length ≤ 1)
    (swaps : ((⟨index, events⟩ : LogEntry).ofKind "token_swapped").length ≤ 1)
    (formed : ∀ e ∈ (⟨index, events⟩ : LogEntry).ofKind "transfer",
      (Transfer.ofEvent e).isOk = true) :
    (exactIn typeUrl message (LogEntry.forMessage? (groupByMessage flat) index)).toOption =
        (exactIn typeUrl message (some ⟨index, events⟩)).toOption ↔
      ∀ sender hop, FallsBack typeUrl message ⟨index, events⟩ sender hop →
        ¬Buried sender hop.denomOut ((⟨index, events⟩ : LogEntry).ofKind "transfer") ∧
        ¬OutOfReach sender hop.denomOut ((⟨index, events⟩ : LogEntry).ofKind "transfer") := by
  have readable := Transfer.readable_of_isOk formed
  rw [forMessage?_taggedAs tagged]
  by_cases none : events = []
  · -- Without a message event neither form has an action.
    subst none
    rw [if_pos rfl, exactIn_toOption]
    exact iff_of_true rfl fun sender hop falls => by cases falls.action
  · rw [if_neg none, exactIn_toOption, exactIn_toOption, hasAction_gathered typeUrl messages]
    constructor
    · intro same sender hop falls
      obtain ⟨tokenIn, asks⟩ := falls.asks
      rw [if_pos falls.action, if_pos falls.action, asks, Option.bind_some, Option.bind_some] at same
      have apart : Function.Injective fun out : Coin => some (⟨sender, tokenIn, out⟩ : Swap) := by
        intro one other equal
        cases equal
        rfl
      have output := Option.map_injective apart same
      exact (outputIn_alike_iff sender hop swaps readable).mp output falls.untold
    · intro clear
      by_cases named : (⟨index, events⟩ : LogEntry).hasAction typeUrl = true
      · rw [if_pos named, if_pos named]
        cases asks : asked? message with
        | none => rfl
        | some asked =>
          obtain ⟨sender, tokenIn, hop⟩ := asked
          have output := (outputIn_alike_iff sender hop swaps readable).mpr fun untold =>
            clear sender hop ⟨named, ⟨tokenIn, asks⟩, untold⟩
          exact congrArg (Option.map _) output
      · rw [if_neg named, if_neg named]

end

def swapMessage : Json := .obj [
  ("sender", .str "osmo1s"),
  ("routes", .arr [
    .obj [("pool_id", .str "1"), ("token_out_denom", .str "uion")],
    .obj [("pool_id", .str "9"), ("token_out_denom", .str "uatom")]]),
  ("token_in", .obj [("denom", .str "uosmo"), ("amount", .str "100")])]

/-- Events of the swap, of which the transfers alone tell the output. -/
def swapEvents (transfers : List Event) : List Event :=
  ⟨"message", [⟨"action", "swap_exact_amount_in"⟩]⟩ ::
    ⟨"token_swapped", [⟨"pool_id", "9"⟩, ⟨"tokens_out", "1uion"⟩]⟩ :: transfers

def payout : Event :=
  ⟨"transfer", [⟨"recipient", "osmo1s"⟩, ⟨"sender", "osmo1pool"⟩, ⟨"amount", "4uatom"⟩]⟩

def fee : Event :=
  ⟨"transfer", [⟨"recipient", "osmo1fee"⟩, ⟨"sender", "osmo1s"⟩, ⟨"amount", "1uosmo"⟩]⟩

def flatEvents (events : List Event) : List Event :=
  events.map fun e => { e with attributes := e.attributes ++ [⟨messageTag, "0"⟩] }

/-- A payout behind the fee is found either way. -/
theorem gathered_alike_iff_of_fee_first :
    (exactIn swapExactInType swapMessage (some ⟨0, swapEvents [fee, payout]⟩)).toOption =
        some (some ⟨"osmo1s", ⟨100, "uosmo"⟩, ⟨4, "uatom"⟩⟩) ∧
      ¬Buried "osmo1s" "uatom" [fee, payout] ∧ ¬OutOfReach "osmo1s" "uatom" [fee, payout] := by
  have tagged : TaggedAs 0 (swapEvents [fee, payout]) (flatEvents (swapEvents [fee, payout])) :=
    ⟨by decide, by decide⟩
  have alike := @gathered_alike_iff 0 _ _ swapExactInType swapMessage tagged
    (by decide) (by decide) (by decide)
  have falls : FallsBack swapExactInType swapMessage ⟨0, swapEvents [fee, payout]⟩ "osmo1s"
      ⟨"9", "uatom"⟩ := ⟨by decide, ⟨⟨100, "uosmo"⟩, by rfl⟩, by rfl⟩
  exact ⟨by rfl, alike.mp (by rfl) "osmo1s" ⟨"9", "uatom"⟩ falls⟩

/-- A payout before the fee is found only where the events are listed one by one. -/
theorem payout_missed :
    TaggedAs 0 (swapEvents [payout, fee]) (flatEvents (swapEvents [payout, fee])) ∧
      ((⟨0, swapEvents [payout, fee]⟩ : LogEntry).ofKind "message").length ≤ 1 ∧
      ((⟨0, swapEvents [payout, fee]⟩ : LogEntry).ofKind "token_swapped").length ≤ 1 ∧
      (∀ e ∈ (⟨0, swapEvents [payout, fee]⟩ : LogEntry).ofKind "transfer",
        (Transfer.ofEvent e).isOk = true) ∧
      (exactIn swapExactInType swapMessage (some ⟨0, swapEvents [payout, fee]⟩)).toOption =
        some (some ⟨"osmo1s", ⟨100, "uosmo"⟩, ⟨4, "uatom"⟩⟩) ∧
      (exactIn swapExactInType swapMessage
        (LogEntry.forMessage? (groupByMessage (flatEvents (swapEvents [payout, fee]))) 0)).toOption =
        none :=
  ⟨⟨by decide, by decide⟩, by decide, by decide, by decide, by rfl, by rfl⟩

/-- Before two empty transfer events it is found only where the events are gathered. -/
example :
    let events := swapEvents [payout, ⟨"transfer", []⟩, ⟨"transfer", []⟩]
    (exactIn swapExactInType swapMessage (some ⟨0, events⟩)).isOk = false ∧
      (exactIn swapExactInType swapMessage
        (LogEntry.forMessage? (groupByMessage (flatEvents events)) 0)).isOk = true :=
  ⟨by rfl, by rfl⟩

end TaxLedger.Pool.Routed
