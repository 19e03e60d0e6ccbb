import TaxLedger.Proofs.Contract.Known
import TaxLedger.Proofs.Message.Registry
import TaxLedger.Proofs.Pool.Whole

/-!
The movements of messages. Every decoder makes its movements of whole coins (`families_wellFormed`), so that
all movements of what the registry makes of a message are well formed (`decode_wellFormed`).
-/

namespace TaxLedger

def Reading.WellFormed (r : Reading) : Prop := ∀ m ∈ r.movements, m.WellFormed

/-- A decoder of which every reading has well formed movements only. -/
def Decoder.WellFormed (d : Decoder) : Prop :=
  ∀ typeUrl message log reading, d.read typeUrl message log = .ok reading → reading.WellFormed

/-- It is enough that whatever is read is shown by well formed movements. -/
theorem Decoder.wellFormed_make {α : Type} {messageType : String} {blank : α} {view : α → Reading}
    {read : String → Json → Option LogEntry → Except DecodeError α}
    (shown : ∀ {typeUrl message log a}, read typeUrl message log = .ok a → (view a).WellFormed) :
    (Decoder.make messageType blank view read).WellFormed := by
  intro typeUrl message log reading success
  obtain ⟨a, told, rfl⟩ := map_ok success
  exact shown told

section
variable {coins : List Coin} (whole : ∀ c ∈ coins, c.IsWhole)
include whole

theorem transfers_wellFormed (sender receiver : String) :
    ∀ m ∈ coins.map (Movement.transfer sender receiver), m.WellFormed :=
  List.forall_mem_map.mpr fun c member => Movement.wellFormed_transfer sender receiver (whole c member)

theorem receipts_wellFormed (receiver : String) :
    ∀ m ∈ coins.map (Movement.receipt receiver), m.WellFormed :=
  List.forall_mem_map.mpr fun c member => Movement.wellFormed_receipt receiver (whole c member)

theorem payments_wellFormed (sender : String) :
    ∀ m ∈ coins.map (Movement.payment sender), m.WellFormed :=
  List.forall_mem_map.mpr fun c member => Movement.wellFormed_payment sender (whole c member)

end

/-! ### Pools -/

namespace Pool

def Reader.WellFormed (read : Reader) : Prop :=
  ∀ typeUrl message entry o, read typeUrl message entry = .ok o → ∀ m ∈ o.movements, m.WellFormed

theorem swapping_wellFormed {read : SwapReader} (whole : read.IsWhole) :
    Reader.WellFormed (swapping read) := by
  intro typeUrl message entry o success
  obtain ⟨s, told, rfl⟩ := map_ok success
  exact List.forall_mem_singleton.mpr (whole _ _ _ s told).movement

theorem liquidity_wellFormed {read : LiquidityReader} (tells : read.Tells) (side : Side) :
    Reader.WellFormed (liquidity side read) := by
  intro typeUrl message entry o success
  obtain ⟨l, found, rfl⟩ := map_ok success
  have well := (tells _ _ _ _ found).1
  exact List.forall_mem_append.mpr ⟨legs_wellFormed well side, well.others⟩

theorem decoder_wellFormed {read : Reader} (well : Reader.WellFormed read)
    (messageType name : String) : (decoder messageType name read).WellFormed := by
  intro typeUrl message log reading success
  obtain ⟨o, told, rfl⟩ := map_ok success
  obtain ⟨entry, -, told⟩ := bind_ok told
  exact well typeUrl message entry o told

end Pool

/-! ### Contracts -/

namespace Contract

theorem firstReading?_some {x : Execution} {log : Option LogEntry} {readers : List Reader}
    {reading : Reading} (found : firstReading? x log readers = some reading) :
    ∃ read ∈ readers, read x log = .ok reading := by
  induction readers with
  | nil => cases found
  | cons first rest ih =>
    rw [firstReading?] at found
    cases own : first x log with
    | ok told =>
      rw [own] at found
      exact ⟨first, List.mem_cons_self, own.trans (congrArg _ (Option.some.inj found))⟩
    | error refusal =>
      rw [own] at found
      obtain ⟨read, member, told⟩ := ih found
      exact ⟨read, List.mem_cons_of_mem _ member, told⟩

theorem vault_wellFormed {x : Execution} {log : Option LogEntry} {reading : Reading}
    (success : Vault.read x log = .ok reading) : reading.WellFormed := by
  obtain ⟨understood, -, rfl⟩ := map_ok success
  exact List.forall_mem_nil _

/-- An execution moves nothing, whether its contract has a handler or not. -/
theorem decoder_wellFormed {contracts : Registry} (known : contracts.Known) :
    (decoder contracts).WellFormed := by
  intro typeUrl message log reading success
  obtain ⟨x, -, success⟩ := bind_ok success
  split at success
  · cases success
    exact List.forall_mem_nil _
  · rename_i handler inCharge
    have vault := known.handlerFor inCharge
    subst vault
    split at success
    · cases success
    · split at success
      · rename_i told found
        cases success
        obtain ⟨read, member, accepted⟩ := firstReading?_some found
        have own : read = Vault.read := List.mem_singleton.mp member
        exact vault_wellFormed (own ▸ accepted)
      · cases success

end Contract

/-! ### Transfers across chains -/

namespace Ibc
variable {typeUrl : String} {message : Json} {log : Option LogEntry}

theorem Outgoing.read_wellFormed {t : Outgoing} (success : read typeUrl message log = .ok t) :
    (view t).WellFormed := by
  obtain ⟨entry, -, success⟩ := bind_ok success
  obtain ⟨⟨sender, receiver, text⟩, -, success⟩ := bind_ok success
  obtain ⟨token, carried, success⟩ := bind_ok success
  cases success
  refine transfers_wellFormed ?_ sender receiver
  cases text with
  | none =>
    cases carried
    exact List.forall_mem_nil _
  | some text =>
    obtain ⟨coin, read, rfl⟩ := map_ok carried
    exact List.forall_mem_singleton.mpr (CoinText.isWhole_of_toCoin read)

theorem Incoming.read_wellFormed {t : Incoming} (success : read typeUrl message log = .ok t) :
    (view t).WellFormed := by
  have nothing : (view {}).WellFormed := List.forall_mem_nil _
  obtain ⟨entry, -, success⟩ := bind_ok success
  obtain ⟨packet, -, success⟩ := bind_ok success
  split at success
  · cases success
    exact nothing
  split at success
  · cases success
    exact nothing
  obtain ⟨data, -, success⟩ := bind_ok success
  obtain ⟨amount, parsed, success⟩ := bind_ok success
  cases success
  -- The sender of a packet is told beside what its receiver gets.
  have receipt : (Movement.receipt data.receiver
      ⟨amount, receivedDenom packet.route data.denom⟩).WellFormed :=
    Movement.wellFormed_receipt data.receiver (Coin.isWhole_of_parseAmount parsed)
  exact List.forall_mem_singleton.mpr { receipt with }

theorem Refund.read_wellFormed {t : Refund} (success : read typeUrl message log = .ok t) :
    (view t).WellFormed := by
  have nothing : (view {}).WellFormed := List.forall_mem_nil _
  obtain ⟨entry, -, success⟩ := bind_ok success
  obtain ⟨⟨packet, text⟩, -, success⟩ := bind_ok success
  dsimp only at success
  split at success
  · cases success
    exact nothing
  obtain ⟨told, -, success⟩ := bind_ok success
  split at success
  · cases success
    exact nothing
  obtain ⟨data, -, success⟩ := bind_ok success
  obtain ⟨amount, parsed, success⟩ := bind_ok success
  cases success
  exact List.forall_mem_singleton.mpr
    (Movement.wellFormed_receipt data.sender (Coin.isWhole_of_parseAmount parsed))

end Ibc

/-! ### Other messages -/

namespace Message
variable {typeUrl : String} {message : Json} {log : Option LogEntry}

theorem Send.read_wellFormed {s : Send} (success : read message = .ok s) : (view s).WellFormed := by
  obtain ⟨⟨sender, recipient, texts⟩, -, success⟩ := bind_ok success
  obtain ⟨coins, given, success⟩ := bind_ok success
  cases success
  exact transfers_wellFormed (isWhole_of_coinsOfTexts given) sender recipient

theorem MultiSend.read_wellFormed {s : MultiSend} (success : read typeUrl message = .ok s) :
    (view s).WellFormed := by
  obtain ⟨⟨inputs, outputs⟩, -, success⟩ := bind_ok success
  dsimp only at success
  split at success
  · cases success
  · rename_i sender _ _
    obtain ⟨lists, listed, success⟩ := bind_ok success
    cases success
    refine List.forall_mem_map.mpr fun (recipient, coin) member => ?_
    obtain ⟨list, among, inside⟩ := List.mem_flatten.mp member
    obtain ⟨⟨address, texts⟩, -, told⟩ := mapM_ok listed list among
    obtain ⟨coins, given, told⟩ := bind_ok told
    cases told
    obtain ⟨own, carried, same⟩ := List.mem_map.mp inside
    obtain ⟨rfl, rfl⟩ := Prod.mk.inj same
    exact Movement.wellFormed_transfer sender address (isWhole_of_coinsOfTexts given own carried)

theorem CommunityGift.read_wellFormed {g : CommunityGift}
    (success : read typeUrl message log = .ok g) : (view g).WellFormed := by
  obtain ⟨entry, -, success⟩ := bind_ok success
  obtain ⟨⟨depositor, texts⟩, -, success⟩ := bind_ok success
  obtain ⟨coins, given, success⟩ := bind_ok success
  cases success
  exact transfers_wellFormed (isWhole_of_coinsOfTexts given) depositor (poolFor depositor)

namespace ProposalDeposit

theorem ofEvent_whole {depositor : String} {e : Event} {deposits : List (String × Coin)}
    (success : ofEvent depositor e = .ok deposits) : ∀ d ∈ deposits, d.2.IsWhole := by
  obtain ⟨transfers, -, success⟩ := bind_ok success
  obtain ⟨lists, listed, success⟩ := bind_ok success
  cases success
  intro d member
  obtain ⟨list, among, inside⟩ := List.mem_flatten.mp member
  obtain ⟨t, -, told⟩ := mapM_ok listed list among
  obtain ⟨coins, read, told⟩ := bind_ok told
  cases told
  obtain ⟨coin, carried, rfl⟩ := List.mem_map.mp inside
  exact Coin.isWhole_of_parseList read coin carried

theorem read_wellFormed {p : ProposalDeposit} (success : read message log = .ok p)
    (messageType : String) : (view messageType p).WellFormed := by
  obtain ⟨⟨proposer, named⟩, -, success⟩ := bind_ok success
  dsimp only at success
  split at success
  · cases success
    exact List.forall_mem_nil _
  · obtain ⟨lists, listed, success⟩ := bind_ok success
    cases success
    refine List.forall_mem_map.mpr fun (recipient, coin) member => ?_
    obtain ⟨list, among, inside⟩ := List.mem_flatten.mp member
    obtain ⟨e, -, told⟩ := mapM_ok listed list among
    exact Movement.wellFormed_transfer _ recipient (ofEvent_whole told (recipient, coin) inside)

end ProposalDeposit

theorem Withdrawal.read_whole {p : Payout} (success : read typeUrl message log = .ok p) :
    ∀ c ∈ p.coins, c.IsWhole := by
  obtain ⟨entry, -, success⟩ := bind_ok success
  obtain ⟨received, -, success⟩ := bind_ok success
  obtain ⟨coins, read, success⟩ := bind_ok success
  obtain ⟨delegator, -, success⟩ := bind_ok success
  dsimp only at success
  split at success
  · cases success
  · cases success
    exact Coin.isWhole_of_parseList read

theorem Delegation.read_whole {p : Payout} (success : read typeUrl message log = .ok p) :
    ∀ c ∈ p.coins, c.IsWhole := by
  obtain ⟨entry, -, success⟩ := bind_ok success
  obtain ⟨delegator, -, success⟩ := bind_ok success
  obtain ⟨coins, read, success⟩ := bind_ok success
  cases success
  exact isWhole_of_coinsFollowing read

theorem ValidatorSet.read_whole {p : Payout} (success : read typeUrl message log = .ok p) :
    ∀ c ∈ p.coins, c.IsWhole := by
  obtain ⟨entry, -, success⟩ := bind_ok success
  obtain ⟨delegator, -, success⟩ := bind_ok success
  obtain ⟨coins, read, success⟩ := bind_ok success
  cases success
  exact fun c member => isWhole_of_coinsFollowing read c (List.mem_of_mem_filter member)

theorem Supply.read_wellFormed {change : SupplyChange} {s : Supply}
    (success : read change typeUrl message log = .ok s) : (view change s).WellFormed := by
  obtain ⟨entry, -, success⟩ := bind_ok success
  obtain ⟨⟨sender, amount, mintTo, burnFrom⟩, -, success⟩ := bind_ok success
  obtain ⟨coin, read, success⟩ := bind_ok success
  cases success
  have whole := CoinText.isWhole_of_toCoin read
  cases change with
  | mint => exact List.forall_mem_singleton.mpr (Movement.wellFormed_receipt _ whole)
  | burn => exact List.forall_mem_singleton.mpr (Movement.wellFormed_payment _ whole)

/-! ### All families -/

theorem families_wellFormed {contracts : Contract.Registry} (known : contracts.Known) :
    Families contracts Decoder.WellFormed where
  send := Decoder.wellFormed_make Send.read_wellFormed
  multiSend := Decoder.wellFormed_make MultiSend.read_wellFormed
  withdrawal _ _ := Decoder.wellFormed_make fun read =>
    receipts_wellFormed (Withdrawal.read_whole read) _
  gift := Decoder.wellFormed_make CommunityGift.read_wellFormed
  deposit _ _ := Decoder.wellFormed_make fun read => ProposalDeposit.read_wellFormed read _
  delegation _ _ := Decoder.wellFormed_make fun read =>
    receipts_wellFormed (Delegation.read_whole read) _
  outgoing := Decoder.wellFormed_make Ibc.Outgoing.read_wellFormed
  incoming := Decoder.wellFormed_make Ibc.Incoming.read_wellFormed
  refund := Decoder.wellFormed_make Ibc.Refund.read_wellFormed
  supply _ := Decoder.wellFormed_make Supply.read_wellFormed
  swap entry member :=
    Pool.decoder_wellFormed (Pool.swapping_wellFormed (Pool.swapReaders_whole entry member)) _ _
  liquidity entry member :=
    Pool.decoder_wellFormed (Pool.liquidity_wellFormed (Pool.liquidityReaders_tell entry member) _) _ _
  routed entry member := Decoder.wellFormed_make fun {_ _ _ s} read => by
    cases s with
    | none => exact List.forall_mem_nil _
    | some s =>
      exact List.forall_mem_singleton.mpr (Pool.Routed.readers_whole entry member _ _ _ s read).movement
  position := by
    rintro ⟨messageType, direction, source⟩ -
    refine Decoder.wellFormed_make fun read => ?_
    have whole := Pool.Position.read_whole read
    cases direction with
    | into => exact payments_wellFormed whole _
    | out => exact receipts_wellFormed whole _
  validatorSet _ _ := Decoder.wellFormed_make fun read =>
    receipts_wellFormed (ValidatorSet.read_whole read) _
  batch _ := Decoder.wellFormed_make fun read => payments_wellFormed (Pool.Batch.read_whole read) _
  contract := Contract.decoder_wellFormed known

/-- What the registry makes of a message is of the type of the message. Each side of its movements has an
amount exactly if it has a denomination, at least one side is there, and every amount is whole. -/
theorem decode_wellFormed {contracts : Contract.Registry} (known : contracts.Known)
    {typeUrl : String} {message : Json} {log : Option LogEntry} {decoded : Decoded}
    (success : (Registry.standard contracts).decode typeUrl message log = .ok decoded) :
    decoded.typeUrl = typeUrl ∧ ∀ m ∈ decoded.movements, m.WellFormed := by
  rcases Registry.standard_decode_ok success with rfl | ⟨d, member, -, reading, read, rfl⟩
  · exact ⟨rfl, List.forall_mem_nil _⟩
  · exact ⟨rfl, (families_wellFormed known).all d member typeUrl message log reading read⟩

/-- The body of a message that mints an amount with digits behind the point. -/
def minting : Json :=
  .obj [("sender", .str "osmo1s"), ("amount", .obj [("denom", .str "ufoo"), ("amount", .str "7.9")])]

/-- What is made of it: the amount is cut to a whole number. -/
def minted : Decoded :=
  ⟨mintType, "MsgMint: osmo1s received 7ufoo", [Movement.receipt "osmo1s" ⟨7, "ufoo"⟩]⟩

theorem decode_wellFormed_of_mint :
    (Registry.standard .builtin).decode mintType minting
        (some { events := [⟨"message", [⟨"action", mintType⟩]⟩] }) = .ok minted ∧
      ∀ m ∈ minted.movements, m.WellFormed := by
  have success : (Registry.standard .builtin).decode mintType minting
      (some { events := [⟨"message", [⟨"action", mintType⟩]⟩] }) = .ok minted := by rfl
  exact ⟨success, (decode_wellFormed .builtin success).2⟩

end Message

end TaxLedger
