import Mathlib.Algebra.BigOperators.Group.List.Basic
import TaxLedger.Proofs.Decimal.Value
import TaxLedger.Proofs.Message.Registry

/-!
A coin that leaves for another chain and is refused there. The transfer names the coin by its local
denomination and the packet by its trace; both amounts are read in one way, so that the refund gives
back what the transfer took (`refused_transfer_nets_zero`).
-/

namespace TaxLedger

/-! ### Books -/

namespace Movement

def debit (account denom : String) (m : Movement) : ℚ :=
  match m.sent? with
  | some coin => if m.sender = account ∧ coin.denom = denom then coin.amount.toRat else 0
  | none => 0

def credit (account denom : String) (m : Movement) : ℚ :=
  match m.received? with
  | some coin => if m.receiver = account ∧ coin.denom = denom then coin.amount.toRat else 0
  | none => 0

def debits (account denom : String) (ms : List Movement) : ℚ := (ms.map (debit account denom)).sum

def credits (account denom : String) (ms : List Movement) : ℚ :=
  (ms.map (credit account denom)).sum

theorem debits_transfer (account denom sender receiver : String) (coin : Coin) :
    debits account denom [transfer sender receiver coin] =
      credits account denom [receipt sender coin] := by
  simp only [debits, credits, List.map_singleton, List.sum_singleton]
  rfl

end Movement

namespace Ibc

open Message

/-! ### One decoder for each side -/

section
variable (contracts : Contract.Registry)

theorem decode_transfer (message : Json) (log : Option LogEntry) :
    (Registry.standard contracts).decode transferType message log =
      ((Outgoing.read transferType message log).map Outgoing.view).map fun reading =>
        ⟨transferType, reading.description, reading.movements⟩ := by
  have heard : (Registry.standard contracts).isIgnored transferType = false := rfl
  have only : (Registry.standard contracts).decodersFor transferType = [Outgoing.decoder] := rfl
  exact Registry.decode_eq_read heard only message log

theorem decode_acknowledgement (message : Json) (log : Option LogEntry) :
    (Registry.standard contracts).decode acknowledgementType message log =
      ((Refund.read acknowledgementType message log).map Refund.view).map fun reading =>
        ⟨acknowledgementType, reading.description, reading.movements⟩ := by
  have heard : (Registry.standard contracts).isIgnored acknowledgementType = false := rfl
  have only : (Registry.standard contracts).decodersFor acknowledgementType = [Refund.decoder] := rfl
  exact Registry.decode_eq_read heard only message log

end

/-! ### What is read -/

theorem Outgoing.read_eq_ok {typeUrl : String} {message : Json} {log : Option LogEntry} {s r : String}
    {token : CoinText} {t : Outgoing} (named : bodyOfJson? message = some (s, r, some token)) :
    read typeUrl message log = .ok t ↔
      (∃ entry, log = some entry ∧ entry.hasAction typeUrl) ∧
        ∃ amount, Coin.parseAmount token.amount = .ok amount ∧
          t = ⟨s, r, some ⟨amount, token.denom⟩⟩ := by
  constructor
  · intro success
    obtain ⟨entry, acts, success⟩ := bind_ok success
    obtain ⟨content, read, success⟩ := bind_ok success
    cases (body_eq_ok.mpr named).symm.trans read
    obtain ⟨coin, carried, success⟩ := bind_ok success
    obtain ⟨own, valued, rfl⟩ := map_ok carried
    obtain ⟨amount, parsed, rfl⟩ := map_ok valued
    exact ⟨⟨entry, requireAction_eq_ok.mp acts⟩, amount, parsed, (Except.ok.inj success).symm⟩
  · rintro ⟨⟨entry, acts⟩, amount, parsed, rfl⟩
    have carried : (some token).mapM CoinText.toCoin = .ok (some ⟨amount, token.denom⟩) := by
      show some <$> CoinText.toCoin token = _
      rw [CoinText.toCoin, parsed]
      rfl
    rw [read, requireAction_eq_ok.mpr acts, body_eq_ok.mpr named]
    simp only [bind, Except.bind, carried]
    rfl

def acknowledged (text : String) : Except DecodeError Json := do
  let document ← parseEncoded text
  body Json.readValue document

theorem parseEncoded_ne_empty {text : String} {v : Json} (success : parseEncoded text = .ok v) :
    text ≠ "" := by
  rintro rfl
  have failed : parseEncoded "" = .error .json := rfl
  rw [failed] at success
  cases success

namespace Refund

theorem isError_eq {text : String} {v : Json} (holds : acknowledged text = .ok v) :
    isError text = .ok (v.get? "error").isSome := by
  obtain ⟨document, decoded, value⟩ := bind_ok holds
  rw [isError, if_neg (parseEncoded_ne_empty decoded), decoded]
  exact congrArg (· >>= fun value => Except.ok (value.get? "error").isSome) value

variable {typeUrl : String} {message : Json} {entry : LogEntry} {packet : Packet}
  {acknowledgement : String} {v : Json}

def ofPacket (packet : Packet) : Except DecodeError Refund := do
  let data ← packet.tokenData
  let amount ← Coin.parseAmount data.amount
  return ⟨data.sender, some ⟨amount, localDenom data.denom⟩⟩

theorem read_eq (content : bodyOfJson? message = some (packet, acknowledgement))
    (holds : acknowledged acknowledgement = .ok v) :
    read typeUrl message (some entry) =
      if packet.data = "" then .ok {}
      else if (v.get? "error").isSome then ofPacket packet else .ok {} := by
  have step : read typeUrl message (some entry) =
      if packet.data = "" then .ok {}
      else isError acknowledgement >>= fun told => if !told then .ok {} else ofPacket packet := by
    simp only [read, requireLog, body_eq_ok.mpr content]
    rfl
  rw [step, isError_eq holds]
  refine ite_congr rfl (fun _ => rfl) fun _ => ?_
  cases (v.get? "error").isSome with
  | true => simp only [bind, Except.bind, Bool.not_true, Bool.false_eq_true, if_false, if_true]
  | false => simp only [bind, Except.bind, Bool.not_false, Bool.false_eq_true, if_false, if_true]

end Refund

/-- A transfer that the other chain refuses nets to zero: an acknowledgement of an error gives its sender
the coin that the transfer took from it, and any other acknowledgement moves nothing. -/
theorem refused_transfer_nets_zero {contracts : Contract.Registry} {trace amount s r : String}
    {transfer acknowledgement : Json} {log : Option LogEntry} (entry : LogEntry) {packet : Packet}
    {text : String} {v : Json} {sent : Decoded}
    (token : Outgoing.bodyOfJson? transfer = some (s, r, some ⟨localDenom trace, amount⟩))
    (leaves : (Registry.standard contracts).decode transferType transfer log = .ok sent)
    (data : packet.tokenData = .ok ⟨trace, amount, s, r⟩)
    (content : Refund.bodyOfJson? acknowledgement = some (packet, text))
    (holds : acknowledged text = .ok v) :
    ∃ told, (Registry.standard contracts).decode acknowledgementType acknowledgement (some entry) =
        .ok told ∧
      ((v.get? "error").isSome → ∃ coin, coin.denom = localDenom trace ∧
        sent.movements = [Movement.transfer s r coin] ∧
        told.movements = [Movement.receipt s coin] ∧
        ∀ account denom, Movement.debits account denom sent.movements =
          Movement.credits account denom told.movements) ∧
      ((v.get? "error").isNone → told.movements = []) := by
  rw [decode_transfer] at leaves
  obtain ⟨reading, viewed, rfl⟩ := map_ok leaves
  obtain ⟨t, read, rfl⟩ := map_ok viewed
  obtain ⟨_, n, parsed, rfl⟩ := (Outgoing.read_eq_ok token).mp read
  have carried : packet.data ≠ "" := by
    obtain ⟨document, decoded, _⟩ := bind_ok data
    exact parseEncoded_ne_empty decoded
  have given : Refund.ofPacket packet = .ok ⟨s, some ⟨n, localDenom trace⟩⟩ := by
    have parsed : Coin.parseAmount amount = .ok n := parsed
    simp only [Refund.ofPacket, data, bind, Except.bind, parsed]
    rfl
  rw [decode_acknowledgement, Refund.read_eq content holds, if_neg carried]
  by_cases refused : (v.get? "error").isSome
  · rw [if_pos refused, given]
    refine ⟨_, rfl, ?_, ?_⟩
    · intro _
      exact ⟨⟨n, localDenom trace⟩, rfl, rfl, rfl, fun account denom =>
        Movement.debits_transfer account denom s r ⟨n, localDenom trace⟩⟩
    · intro none
      rw [Option.isNone_iff_eq_none.mp none] at refused
      cases refused
  · rw [if_neg refused]
    exact ⟨_, rfl, fun told => absurd told refused, fun _ => rfl⟩

def fractional (denom : String) : Json :=
  .obj [("sender", .str "osmo1s"), ("receiver", .str "cosmos1r"),
    ("token", .obj [("denom", .str denom), ("amount", .str "2.9")])]

def fractionalPacket : Packet where
  data := "eyJkZW5vbSI6InRyYW5zZmVyL2NoYW5uZWwtMC91YXRvbSIsImFtb3VudCI6IjIuOSIsInNlbmRlciI6Im9z" ++
    "bW8xcyIsInJlY2VpdmVyIjoiY29zbW9zMXIifQ=="

def refusal : Json :=
  .obj [("packet", .obj [("data", .str fractionalPacket.data)]),
    ("acknowledgement", .str "eyJlcnJvciI6IkFCQ0kgY29kZTogNSJ9")]

theorem refused_transfer_nets_zero_of_voucher :
    let leaving : LogEntry := { events := [⟨"message", [⟨"action", transferType⟩]⟩] }
    ∃ sent told, (Registry.standard .builtin).decode transferType
        (fractional (localDenom "transfer/channel-0/uatom")) (some leaving) = .ok sent ∧
      (Registry.standard .builtin).decode acknowledgementType refusal (some {}) = .ok told ∧
      ∃ coin, coin.denom = voucher "transfer/channel-0/uatom" ∧
        sent.movements = [.transfer "osmo1s" "cosmos1r" coin] ∧
        told.movements = [.receipt "osmo1s" coin] := by
  intro leaving
  have token (denom : String) : Outgoing.bodyOfJson? (fractional denom) =
      some ("osmo1s", "cosmos1r", some ⟨denom, "2.9"⟩) := rfl
  have parsed : Coin.parseAmount "2.9" = .ok 2 := ok_of_toOption (by decide +kernel)
  have acts : leaving.hasAction transferType := by decide
  have leaves (denom : String) : ∃ sent, (Registry.standard .builtin).decode transferType
      (fractional denom) (some leaving) = .ok sent := by
    rw [decode_transfer, (Outgoing.read_eq_ok (token denom)).mpr ⟨⟨_, rfl, acts⟩, 2, parsed, rfl⟩]
    exact ⟨_, rfl⟩
  have data : fractionalPacket.tokenData =
      .ok ⟨"transfer/channel-0/uatom", "2.9", "osmo1s", "cosmos1r"⟩ :=
    ok_of_toOption (by decide +kernel)
  have content : Refund.bodyOfJson? refusal =
      some (fractionalPacket, "eyJlcnJvciI6IkFCQ0kgY29kZTogNSJ9") := rfl
  have refusing : (acknowledged "eyJlcnJvciI6IkFCQ0kgY29kZTogNSJ9").toOption.any
      fun v => (v.get? "error").isSome := by decide +kernel
  obtain ⟨v, holds, refused⟩ := (Option.any_eq_true _ _).mp refusing
  have away : localDenom "transfer/channel-0/uatom" = voucher "transfer/channel-0/uatom" :=
    if_pos (by decide)
  obtain ⟨sent, left⟩ := leaves (localDenom "transfer/channel-0/uatom")
  obtain ⟨told, answered, refunded, _⟩ :=
    refused_transfer_nets_zero {} (token _) left data content (ok_of_toOption holds)
  obtain ⟨coin, denom, out, back, _⟩ := refunded refused
  exact ⟨sent, told, left, answered, coin, denom.trans away, out, back⟩

end Ibc

end TaxLedger
