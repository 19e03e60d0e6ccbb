import TaxLedger.Block.Record

/-!
What reading a block gives. As long as every message of a transaction has an index of 32 bits, reading
cannot fail, and the record of a block is the records of its transactions, each read on its own
(`read_fst`).
-/

namespace TaxLedger.Block

section
variable (registry : Message.Registry) (readable : String)

/-- The records of messages from `index` on, without a bound on the index. -/
def messageRecords (logs : List LogEntry) (index : Nat) (messages : List Json) : List MessageRecord :=
  (messages.zipIdx index).map fun (message, index) => (readMessage registry logs index message).1

def signerOf (tx : Transaction) : Option String :=
  match tx.feePayer readable with
  | .ok payer => payer
  | .error _ => none

/-- The record of a transaction, without a bound on the number of its messages. -/
def txRecord (tx : Transaction) : TxRecord :=
  { hash := tx.result.hash
    code := tx.result.code
    signer := signerOf readable tx
    fees := values (tx.signed.fee.amount.map (readFee (signerOf readable tx)))
    messages := if tx.result.code = 0 then messageRecords registry tx.messageLogs 0 tx.signed.messages
      else [] }

/-- Every message of the transaction has an index of 32 bits. -/
def Fits (tx : Transaction) : Prop := tx.signed.messages.length ≤ int32Max + 1

theorem readMessage_index (logs : List LogEntry) (index : Nat) (message : Json) :
    (readMessage registry logs index message).1.index = index := by
  rw [readMessage]
  split <;> rfl

theorem getElem?_messageRecords (logs : List LogEntry) (index : Nat) (messages : List Json) (k : Nat) :
    (messageRecords registry logs index messages)[k]? =
      messages[k]?.map fun message => (readMessage registry logs (index + k) message).1 := by
  rw [messageRecords, List.getElem?_map, List.getElem?_zipIdx, Option.map_map]
  rfl

theorem length_messageRecords (logs : List LogEntry) (index : Nat) (messages : List Json) :
    (messageRecords registry logs index messages).length = messages.length := by
  rw [messageRecords, List.length_map, List.length_zipIdx]

/-- Messages are read one by one, each with its own index. -/
theorem readMessages_fst (logs : List LogEntry) (messages : List Json) {index : Nat}
    (fits : index + messages.length ≤ int32Max + 1) :
    (readMessages registry logs index messages).1 =
      .ok (messageRecords registry logs index messages) := by
  induction messages generalizing index with
  | nil => rfl
  | cons message rest ih =>
    rw [List.length_cons] at fits
    have inside : ¬int32Max < index := by omega
    rw [readMessages]
    simp only [if_neg inside]
    change (readMessages registry logs (index + 1) rest).1.map _ = _
    rw [ih (by omega)]
    rfl

theorem readTx_fst {tx : Transaction} (fits : Fits tx) :
    (readTx registry readable tx).1 = .ok (txRecord registry readable tx) := by
  have messages : (readMessages registry tx.messageLogs 0 tx.signed.messages).1 = _ :=
    readMessages_fst registry tx.messageLogs tx.signed.messages (by rw [Nat.zero_add]; exact fits)
  rw [readTx, txRecord, signerOf]
  by_cases succeeded : tx.result.code = 0
  · simp only [succeeded, ↓reduceIte]
    cases tx.feePayer readable with
    | ok payer => exact congrArg (Except.map _) messages
    | error problem => exact congrArg (Except.map _) messages
  · simp only [succeeded, ↓reduceIte]
    cases tx.feePayer readable with
    | ok payer => rfl
    | error problem => rfl

theorem readTxs_fst {txs : List Transaction} (fits : ∀ tx ∈ txs, Fits tx) :
    (readTxs registry readable txs).1 = .ok (txs.map (txRecord registry readable)) := by
  induction txs with
  | nil => rfl
  | cons tx rest ih =>
    have first := readTx_fst registry readable (fits tx List.mem_cons_self)
    have others := ih fun other member => fits other (List.mem_cons_of_mem _ member)
    rw [readTxs]
    cases reading : readTx registry readable tx with
    | mk result notices =>
      rw [reading] at first
      cases first
      dsimp only
      rw [others]
      rfl

/-- A block of transactions that fit is always read, and each transaction on its own. -/
theorem read_fst (header : BlockHeader) {txs : List Transaction} (fits : ∀ tx ∈ txs, Fits tx) :
    (read registry readable header txs).1 =
      .ok ⟨header.height, header.time, txs.map (txRecord registry readable)⟩ := by
  rw [read]
  change (readTxs registry readable txs).1.map _ = _
  rw [readTxs_fst registry readable fits]
  rfl

/-! ### Transactions in place of others -/

/-- What is read of a transaction comes from its signed part, its result and its log entries. -/
theorem readTx_congr {tx tx' : Transaction} (signed : tx'.signed = tx.signed)
    (hash : tx'.result.hash = tx.result.hash) (code : tx'.result.code = tx.result.code)
    (logs : tx'.messageLogs = tx.messageLogs) :
    readTx registry readable tx' = readTx registry readable tx := by
  rw [readTx, readTx, Transaction.feePayer, Transaction.feePayer, signed, hash, code, logs]

theorem readTxs_replace {tx tx' : Transaction} (hash : tx'.result.hash = tx.result.hash)
    (same : readTx registry readable tx' = readTx registry readable tx)
    (before after : List Transaction) :
    readTxs registry readable (before ++ tx' :: after) =
      readTxs registry readable (before ++ tx :: after) := by
  induction before with
  | nil => rw [List.nil_append, List.nil_append, readTxs, readTxs, same, hash]
  | cons first rest ih => rw [List.cons_append, List.cons_append, readTxs, readTxs, ih]

theorem read_replace {tx tx' : Transaction} (hash : tx'.result.hash = tx.result.hash)
    (same : readTx registry readable tx' = readTx registry readable tx) (header : BlockHeader)
    (before after : List Transaction) :
    read registry readable header (before ++ tx' :: after) =
      read registry readable header (before ++ tx :: after) := by
  rw [read, read, readTxs_replace registry readable hash same]

end

end TaxLedger.Block
