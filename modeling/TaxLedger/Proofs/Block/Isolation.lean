import TaxLedger.Proofs.Block.Reading
import TaxLedger.Proofs.Event.ByMessage

/-!
Messages do not disturb each other. A message behind the first may be replaced by any other, with any
other log: the block is still read, and nothing changes in its record but the record of that message
(`message_replaced_alone`).
-/

namespace TaxLedger.Block

/-- Two transactions that differ at most in message `place` and in what its logs tell, either in log
entries or in tagged events. -/
structure DifferAt (place : Nat) (tx tx' : Transaction) : Prop where
  signed : ∃ message,
    tx'.signed = { tx.signed with messages := tx.signed.messages.set place message }
  result : tx'.result = { tx.result with logs := tx'.result.logs, events := tx'.result.events }
  form : tx'.result.logs.isEmpty = tx.result.logs.isEmpty
  logs : (tx'.result.logs.filter fun l => l.msgIndex != (place : Int)) =
    tx.result.logs.filter fun l => l.msgIndex != (place : Int)
  events : (tx'.result.events.filter fun e => e.messageIndex? != some (place : Int)) =
    tx.result.events.filter fun e => e.messageIndex? != some (place : Int)

/-! ### Logs of the other messages -/

theorem forMessage?_filter {place index : Int} (apart : index ≠ place) (logs : List LogEntry) :
    LogEntry.forMessage? (logs.filter fun l => l.msgIndex != place) index =
      LogEntry.forMessage? logs index := by
  rw [LogEntry.forMessage?, LogEntry.forMessage?, List.find?_filter]
  congr 1
  funext l
  by_cases own : l.msgIndex = index
  · simp [own, apart]
  · simp [own]

theorem eventsOf_filter {place index : Int} (apart : index ≠ place) (events : List Event) :
    eventsOf index (events.filter fun e => e.messageIndex? != some place) = eventsOf index events := by
  rw [eventsOf, eventsOf, List.filter_filter]
  congr 1
  funext e
  by_cases own : e.messageIndex? = some index
  · simp [own, apart]
  · simp [own]

/-- Another message finds the same log entry, whichever form the logs have. -/
theorem DifferAt.forMessage? {place : Nat} {tx tx' : Transaction} (differ : DifferAt place tx tx')
    {index : Nat} (apart : index ≠ place) :
    LogEntry.forMessage? tx'.messageLogs index = LogEntry.forMessage? tx.messageLogs index := by
  have other : (index : Int) ≠ place := fun same => apart (Int.ofNat_inj.mp same)
  rw [Transaction.messageLogs, Transaction.messageLogs, differ.form]
  split
  · rw [forMessage?_groupByMessage, forMessage?_groupByMessage, ← eventsOf_filter other,
      differ.events, eventsOf_filter other]
  · rw [← forMessage?_filter other, differ.logs, forMessage?_filter other]

/-! ### Records of the other messages -/

theorem DifferAt.signerOf {place : Nat} {tx tx' : Transaction} (differ : DifferAt place tx tx')
    (behind : 1 ≤ place) (readable : String) : signerOf readable tx' = signerOf readable tx := by
  obtain ⟨message, signed⟩ := differ.signed
  -- The signer may be read from a message, but only from the first.
  have first : (tx.signed.messages.set place message).head? = tx.signed.messages.head? := by
    rw [List.head?_eq_getElem?, List.head?_eq_getElem?, List.getElem?_set_ne (by omega)]
  rw [Block.signerOf, Block.signerOf, Transaction.feePayer, Transaction.feePayer, signed, first]

theorem readMessage_congr (registry : Message.Registry) {logs logs' : List LogEntry} {index : Nat}
    (same : LogEntry.forMessage? logs' index = LogEntry.forMessage? logs index) (message : Json) :
    readMessage registry logs' index message = readMessage registry logs index message := by
  rw [readMessage, readMessage, same]

/-- The record of the transaction changes in the record of that message only. -/
theorem DifferAt.txRecord {place : Nat} {tx tx' : Transaction} (differ : DifferAt place tx tx')
    (behind : 1 ≤ place) (inside : place < tx.signed.messages.length) (succeeded : tx.result.code = 0)
    (registry : Message.Registry) (readable : String) :
    ∃ replaced : MessageRecord, replaced.index = place ∧
      txRecord registry readable tx' =
        { txRecord registry readable tx with
          messages := (txRecord registry readable tx).messages.set place replaced } := by
  obtain ⟨message, signed⟩ := differ.signed
  refine ⟨(readMessage registry tx'.messageLogs place message).1, readMessage_index .., ?_⟩
  have code : tx'.result.code = 0 := by rw [differ.result]; exact succeeded
  have hash : tx'.result.hash = tx.result.hash := by rw [differ.result]
  have messages : messageRecords registry tx'.messageLogs 0 tx'.signed.messages =
      (messageRecords registry tx.messageLogs 0 tx.signed.messages).set place
        (readMessage registry tx'.messageLogs place message).1 := by
    refine List.ext_getElem? fun index => ?_
    rw [getElem?_messageRecords, signed, List.getElem?_set, List.getElem?_set,
      length_messageRecords, getElem?_messageRecords]
    by_cases own : place = index
    · subst own
      simp [inside]
    · have other : 0 + index ≠ place := by omega
      simp only [own, ↓reduceIte, readMessage_congr registry (differ.forMessage? other)]
  rw [Block.txRecord, Block.txRecord, hash, code, succeeded, differ.signerOf behind readable,
    if_pos rfl, if_pos rfl, messages, signed]

/-! ### Blocks -/

theorem DifferAt.fits {place : Nat} {tx tx' : Transaction} (differ : DifferAt place tx tx')
    (fits : Fits tx) : Fits tx' := by
  obtain ⟨message, signed⟩ := differ.signed
  rw [Fits, signed, List.length_set]
  exact fits

theorem index_of_txRecord (registry : Message.Registry) (readable : String) (tx : Transaction)
    {index : Nat} {record : MessageRecord}
    (found : (txRecord registry readable tx).messages[index]? = some record) :
    record.index = index := by
  rw [txRecord] at found
  dsimp only at found
  split at found
  · rw [getElem?_messageRecords] at found
    obtain ⟨message, _, rfl⟩ := Option.map_eq_some_iff.mp found
    rw [readMessage_index, Nat.zero_add]
  · rw [List.getElem?_nil] at found
    cases found

/-- A message behind the first cannot disturb its neighbours. Whatever stands in its place and in its
logs, the block is read, the records of the other transactions are the same, and in the record of its
own transaction at most the record of that message is another, which keeps its index. -/
theorem message_replaced_alone {place : Nat} {tx tx' : Transaction} {before after : List Transaction}
    (fits : ∀ t ∈ before ++ tx :: after, Fits t) (succeeded : tx.result.code = 0)
    (behind : 1 ≤ place) (inside : place < tx.signed.messages.length) (differ : DifferAt place tx tx')
    (registry : Message.Registry) (readable : String) (header : BlockHeader) :
    ∃ (earlier later : List TxRecord) (record : TxRecord) (replaced : MessageRecord),
      (read registry readable header (before ++ tx :: after)).1 =
        .ok ⟨header.height, header.time, earlier ++ record :: later⟩ ∧
      (read registry readable header (before ++ tx' :: after)).1 =
        .ok ⟨header.height, header.time,
          earlier ++ { record with messages := record.messages.set place replaced } :: later⟩ ∧
      earlier.length = before.length ∧ replaced.index = place ∧
      record.messages.length = tx.signed.messages.length ∧
      ∀ (index : Nat) (m : MessageRecord), record.messages[index]? = some m → m.index = index := by
  obtain ⟨replaced, own, changed⟩ := differ.txRecord behind inside succeeded registry readable
  have fits' : ∀ t ∈ before ++ tx' :: after, Fits t := by
    intro t member
    rcases List.mem_append.mp member with early | late
    · exact fits t (List.mem_append_left _ early)
    · rcases List.mem_cons.mp late with rfl | later
      · exact differ.fits (fits tx (List.mem_append_right _ List.mem_cons_self))
      · exact fits t (List.mem_append_right _ (List.mem_cons_of_mem _ later))
  refine ⟨before.map (txRecord registry readable), after.map (txRecord registry readable),
    txRecord registry readable tx, replaced, ?_, ?_, List.length_map _, own, ?_, ?_⟩
  · rw [read_fst registry readable header fits, List.map_append, List.map_cons]
  · rw [read_fst registry readable header fits', List.map_append, List.map_cons, changed]
  · rw [txRecord, if_pos succeeded, length_messageRecords]
  · exact fun index m found => index_of_txRecord registry readable tx found

def send (recipient : String) : Json :=
  .obj [("@type", .str Message.sendType), ("from_address", .str "osmo1r"),
    ("to_address", .str recipient),
    ("amount", .arr [.obj [("denom", .str "uosmo"), ("amount", .str "5")]])]

def sending : Transaction :=
  { signed := { messages := [send "osmo1q", send "osmo1p"] }
    result :=
      { events :=
          [⟨"transfer", [⟨"recipient", "osmo1q"⟩, ⟨messageTag, "0"⟩]⟩,
            ⟨"transfer", [⟨"recipient", "osmo1p"⟩, ⟨messageTag, "1"⟩]⟩] } }

/-- The same with a second message that cannot be decoded, and with another log of it. -/
def disturbed : Transaction :=
  { signed := { messages := [send "osmo1q", .str "broken"] }
    result :=
      { events :=
          [⟨"burn", [⟨messageTag, "1"⟩]⟩,
            ⟨"transfer", [⟨"recipient", "osmo1q"⟩, ⟨messageTag, "0"⟩]⟩] } }

theorem disturbed_differAt : DifferAt 1 sending disturbed where
  signed := ⟨.str "broken", rfl⟩
  result := rfl
  form := rfl
  logs := rfl
  events := by decide

theorem message_replaced_alone_of_sending :
    let registry := Message.Registry.standard {}
    let header : BlockHeader := ⟨"osmosis-1", 5, ⟨0, 0⟩⟩
    ∃ (earlier later : List TxRecord) (record : TxRecord) (replaced : MessageRecord),
      (read registry "osmo" header ([] ++ sending :: [])).1 =
        .ok ⟨header.height, header.time, earlier ++ record :: later⟩ ∧
      (read registry "osmo" header ([] ++ disturbed :: [])).1 =
        .ok ⟨header.height, header.time,
          earlier ++ { record with messages := record.messages.set 1 replaced } :: later⟩ ∧
      earlier.length = ([] : List Transaction).length ∧ replaced.index = 1 ∧
      record.messages.length = sending.signed.messages.length ∧
      ∀ (index : Nat) (m : MessageRecord), record.messages[index]? = some m → m.index = index := by
  intro registry header
  have fits : ∀ t ∈ [] ++ sending :: [], Fits t := by
    intro t member
    rw [List.mem_singleton.mp member, Fits]
    decide
  have inside : 1 < sending.signed.messages.length := by decide
  exact message_replaced_alone fits rfl (Nat.le_refl 1) inside disturbed_differAt registry "osmo" header

end TaxLedger.Block
