import TaxLedger.Message.Registry
import TaxLedger.Proofs.Fallback
import TaxLedger.Proofs.Result

/-!
The registry as a whole. What it makes of a message is what one of the known decoders for the type makes
of it (`standard_decode_ok`), so that a property of all its readings is proved family by family
(`Families`).
-/

namespace TaxLedger.Message

/-! ### What a decoder asks for -/

theorem body_eq_ok {α : Type} {read : Json → Option α} {message : Json} {v : α} :
    body read message = .ok v ↔ read message = some v := by
  rw [body]
  cases read message with
  | none => exact ⟨nofun, nofun⟩
  | some own => simp

theorem requireAction_eq_ok {typeUrl : String} {log : Option LogEntry} {entry : LogEntry} :
    requireAction typeUrl log = .ok entry ↔ log = some entry ∧ entry.hasAction typeUrl := by
  cases log with
  | none => exact ⟨nofun, nofun⟩
  | some own =>
    by_cases acts : own.hasAction typeUrl
    · simp only [requireAction, requireLog, bind, Except.bind, acts, if_true, Except.ok.injEq,
        Option.some.injEq]
      exact ⟨fun same => ⟨same, same ▸ acts⟩, And.left⟩
    · simp only [requireAction, requireLog, bind, Except.bind, acts, Option.some.injEq]
      refine ⟨nofun, ?_⟩
      rintro ⟨rfl, named⟩
      exact absurd named acts

/-! ### The known decoders -/

/-- A property of the known decoders, family by family. -/
structure Families (contracts : Contract.Registry) (P : Decoder → Prop) : Prop where
  send : P Send.decoder
  multiSend : P MultiSend.decoder
  withdrawal : ∀ t ∈ [withdrawRewardType, withdrawCommissionType], P (Withdrawal.decoder t)
  gift : P CommunityGift.decoder
  deposit : ∀ t ∈ [submitProposalType, submitProposalV1Type, depositType, depositV1Type],
    P (ProposalDeposit.decoder t)
  delegation : ∀ t ∈ [delegateType, undelegateType, redelegateType], P (Delegation.decoder t)
  outgoing : P Ibc.Outgoing.decoder
  incoming : P Ibc.Incoming.decoder
  refund : P Ibc.Refund.decoder
  supply : ∀ change, P (Supply.decoder change)
  swap : ∀ entry ∈ Pool.swapReaders,
    P (Pool.decoder entry.1 entry.2.1 (Pool.swapping entry.2.2))
  liquidity : ∀ entry ∈ Pool.liquidityReaders,
    P (Pool.decoder entry.1 entry.2.1 (Pool.liquidity entry.2.2.1 entry.2.2.2))
  routed : ∀ entry ∈ Pool.Routed.readers, P (Pool.Routed.decoder entry.1 entry.2)
  position : ∀ entry ∈ Pool.Position.kinds,
    P (Pool.Position.decoder entry.1 entry.2.1 entry.2.2)
  validatorSet : ∀ t ∈ ValidatorSet.messageTypes, P (ValidatorSet.decoder t)
  batch : ∀ request, P (Pool.Batch.decoder request)
  contract : P (Contract.decoder contracts)

theorem Families.all {contracts : Contract.Registry} {P : Decoder → Prop}
    (families : Families contracts P) : ∀ d ∈ knownDecoders contracts, P d := by
  have pool : ∀ entry ∈ Pool.readers, P (Pool.decoder entry.1 entry.2.1 entry.2.2) := by
    simp only [Pool.readers, List.forall_mem_append, List.forall_mem_map]
    exact ⟨families.swap, families.liquidity⟩
  have reward := families.withdrawal _ List.mem_cons_self
  have commission := families.withdrawal _ (List.mem_cons_of_mem _ List.mem_cons_self)
  have first : ∀ d ∈ [Send.decoder, MultiSend.decoder, Withdrawal.decoder withdrawRewardType,
      Withdrawal.decoder withdrawCommissionType, CommunityGift.decoder], P d := by
    simp [families.send, families.multiSend, reward, commission, families.gift]
  have ibc : ∀ d ∈ [Ibc.Outgoing.decoder, Ibc.Incoming.decoder, Ibc.Refund.decoder], P d := by
    simp [families.outgoing, families.incoming, families.refund]
  have supply : ∀ d ∈ [Supply.decoder .mint, Supply.decoder .burn], P d := by
    simp [families.supply]
  simp only [knownDecoders, List.forall_mem_append, List.forall_mem_map]
  exact ⟨⟨⟨⟨⟨⟨⟨⟨⟨⟨first, families.deposit⟩, families.delegation⟩, ibc⟩, supply⟩, pool⟩,
    families.routed⟩, families.position⟩, families.validatorSet⟩,
    fun request _ => families.batch request⟩, List.forall_mem_singleton.mpr families.contract⟩

namespace Registry

/-! ### Decoders of a type -/

theorem mem_decodersFor {r : Registry} {typeUrl : String} {d : Decoder} :
    d ∈ r.decodersFor typeUrl ↔ (typeUrl, d) ∈ r.decoders := by
  simp [decodersFor]

theorem mem_decodersFor_standard {contracts : Contract.Registry} {typeUrl : String} {d : Decoder} :
    d ∈ (standard contracts).decodersFor typeUrl ↔
      d ∈ knownDecoders contracts ∧ d.messageType = typeUrl := by
  rw [mem_decodersFor, standard, List.mem_map]
  constructor
  · rintro ⟨known, member, equal⟩
    obtain ⟨kind, same⟩ := Prod.mk.inj equal
    exact ⟨same ▸ member, same ▸ kind⟩
  · rintro ⟨member, kind⟩
    exact ⟨d, member, by rw [kind]⟩

/-! ### The first reading -/

theorem firstReading_eq_firstOk (typeUrl : String) (message : Json) (log : Option LogEntry)
    (problem : DecodeError) (tried : List Decoder) :
    firstReading typeUrl message log problem tried =
      firstOk (fun d : Decoder => d.read typeUrl message log) problem tried := by
  induction tried generalizing problem with
  | nil => rfl
  | cons d rest ih =>
    unfold firstReading firstOk
    cases d.read typeUrl message log with
    | ok reading => rfl
    | error refusal => exact ih refusal

theorem firstReading_ok {typeUrl : String} {message : Json} {log : Option LogEntry}
    {problem : DecodeError} {decoders : List Decoder} {reading : Reading}
    (success : firstReading typeUrl message log problem decoders = .ok reading) :
    ∃ d ∈ decoders, d.read typeUrl message log = .ok reading := by
  rw [firstReading_eq_firstOk] at success
  have filled : decoders ≠ [] := by
    rintro rfl
    cases success
  obtain ⟨result, first⟩ := exists_firstOk filled
  rw [first.eq] at success
  subst success
  cases first with
  | @found before after d _ _ accepted =>
    exact ⟨d, List.mem_append_right before List.mem_cons_self, accepted⟩

theorem firstReading_congr {typeUrl : String} {message : Json} {log log' : Option LogEntry}
    {decoders : List Decoder}
    (alike : ∀ d ∈ decoders, d.read typeUrl message log = d.read typeUrl message log')
    (problem : DecodeError) :
    firstReading typeUrl message log problem decoders =
      firstReading typeUrl message log' problem decoders := by
  induction decoders generalizing problem with
  | nil => rfl
  | cons d rest ih =>
    have later := ih fun other member => alike other (List.mem_cons_of_mem _ member)
    rw [firstReading, firstReading, alike d List.mem_cons_self]
    cases d.read typeUrl message log' with
    | ok own => rfl
    | error refusal => exact later refusal

/-- Of a type with one decoder the registry makes what that decoder reads. -/
theorem decode_eq_read {r : Registry} {typeUrl : String} {d : Decoder}
    (heard : r.isIgnored typeUrl = false) (only : r.decodersFor typeUrl = [d]) (message : Json)
    (log : Option LogEntry) :
    r.decode typeUrl message log = (d.read typeUrl message log).map fun reading =>
      ⟨typeUrl, reading.description, reading.movements⟩ := by
  rw [decode, heard, if_neg Bool.false_ne_true, only, firstReading]
  cases d.read typeUrl message log with
  | ok reading => rfl
  | error refusal => rfl

/-! ### The registry of all known types -/

/-- A message of a type that is not ignored is read by a known decoder for its type. -/
theorem standard_decode_ok {contracts : Contract.Registry} {typeUrl : String} {message : Json}
    {log : Option LogEntry} {decoded : Decoded}
    (success : (standard contracts).decode typeUrl message log = .ok decoded) :
    decoded = { typeUrl } ∨ ∃ d ∈ knownDecoders contracts, d.messageType = typeUrl ∧
      ∃ reading, d.read typeUrl message log = .ok reading ∧
        decoded = ⟨typeUrl, reading.description, reading.movements⟩ := by
  rw [decode] at success
  split at success
  · exact .inl (Except.ok.inj success).symm
  · obtain ⟨reading, first, equal⟩ := map_ok success
    obtain ⟨d, member, read⟩ := firstReading_ok first
    obtain ⟨known, kind⟩ := mem_decodersFor_standard.mp member
    exact .inr ⟨d, known, kind, reading, read, equal.symm⟩

theorem standard_decode_congr {contracts : Contract.Registry} {typeUrl : String} {message : Json}
    {log log' : Option LogEntry}
    (alike : ∀ d ∈ knownDecoders contracts, d.messageType = typeUrl →
      d.read typeUrl message log = d.read typeUrl message log') :
    (standard contracts).decode typeUrl message log =
      (standard contracts).decode typeUrl message log' := by
  have readers : ∀ d ∈ (standard contracts).decodersFor typeUrl,
      d.read typeUrl message log = d.read typeUrl message log' := by
    intro d member
    obtain ⟨known, kind⟩ := mem_decodersFor_standard.mp member
    exact alike d known kind
  rw [decode, decode, firstReading_congr readers]

end Registry

end TaxLedger.Message
