import TaxLedger.Block.Record
import TaxLedger.BlockEvent.Record
import TaxLedger.Store.Denom
import TaxLedger.Text.LowerCase

/-!
# Blocks in the store

A block is stored as a whole or not at all, and a second time only when it is indexed anew. Accounts are
stored in lower case. An event of a block is stored once, however often it is handed in; events go in by
the order of their names, in batches.
-/

namespace TaxLedger.Store

open Denom (Known)

variable {ω : Type} [Server ω]

structure ChainIdentity where
  chainId : String
  name : String
  deriving DecidableEq, Repr, Inhabited

def getChain (chain : ChainIdentity) : Work (Store ω) Failure Nat :=
  (getOrInsert ("chain " ++ chain.chainId) (⟨chain.chainId, chain.name⟩ : ChainRow)).map (·.id)

/-- The row of a block; a block that is there keeps its time. -/
def getBlock (chain : Nat) (height : Int) (time : Timestamp) :
    Work (Store ω) Failure (Numbered BlockRow) :=
  getOrInsert ("block " ++ toString height) ({ chain, height, time } : BlockRow)

/-- The highest block of a chain whose transactions are kept. -/
def highestIndexed? (chain : Nat) : Work (Store ω) Failure (Option Int) := do
  let rows ← doing "Failed to query highest indexed block"
    (select [] fun r : BlockRow => r.chain == chain && r.hasTxs)
  return (rows.map (·.row.height)).max?

def markTxs (block : Nat) : Work (Store ω) Failure Unit :=
  doing "Failed to mark block as indexed"
    (update block fun r : BlockRow => { r with hasTxs := true })

def markEvents (block : Nat) : Work (Store ω) Failure Unit :=
  doing "Failed to mark block events as indexed"
    (update block fun r : BlockRow => { r with hasEvents := true })

/-! ### Failed blocks -/

def recordFailed (chain : Nat) (height : Int) : Work (Store ω) Failure Unit := do
  let _ ← doing ("Failed to record failed block " ++ toString height)
    (insertNew (⟨chain, height⟩ : FailedBlockRow))

def hasFailed (chain : Nat) (height : Int) : Work (Store ω) Failure Bool := do
  let rows ← doing "Failed to query failed blocks"
    (select [] (Stored.sameKey (⟨chain, height⟩ : FailedBlockRow)))
  return !rows.isEmpty

/-! ### Parts of a block -/

def getAddress (address : String) : Work (Store ω) Failure Nat :=
  (getOrInsert ("address " ++ address) (⟨address⟩ : AddressRow)).map (·.id)

def getAccount (account : String) : Work (Store ω) Failure Nat :=
  getAddress (Text.lower account)

def getMessageType (typeUrl : String) : Work (Store ω) Failure Nat :=
  (getOrInsert ("message type " ++ typeUrl) (⟨typeUrl⟩ : MessageTypeRow)).map (·.id)

/-- The row of a transaction; one that is there keeps its block and signer. -/
def getTx (hash : String) (code : Int) (block : Nat) (signer : Option Nat) :
    Work (Store ω) Failure Nat :=
  (getOrInsert ("tx " ++ hash) (⟨hash, code, block, signer⟩ : TxRow)).map (·.id)

def denomId (known : Known) (denom : String) : Work (Store ω) Failure Nat :=
  (ensureDenom known denom).map (·.id.toNat)

/-- Stores a fee, unless it is zero. -/
def storeFee (known : Known) (tx : Nat) (f : Block.FeeRecord) : Work (Store ω) Failure Unit := do
  if f.coin.amount.coefficient ≠ 0 then
    let denom ← denomId known f.coin.denom
    let payer ← getAccount f.payer
    let _ ← doing "Failed to insert fee" (insertNew (⟨tx, f.coin.amount, denom, payer⟩ : FeeRow))

def denomId? (known : Known) (denom : Option String) : Work (Store ω) Failure (Option Nat) :=
  match denom.bind nonEmpty with
  | some denom => (denomId known denom).map some
  | none => return none

def accountId? (account : String) : Work (Store ω) Failure (Option Nat) :=
  if account = "" then return none else (getAccount account).map some

def storeMovement (known : Known) (message : Nat) (m : Movement) :
    Work (Store ω) Failure Unit := do
  let denomSent ← denomId? known m.denomSent
  let denomReceived ← denomId? known m.denomReceived
  let sender ← accountId? m.sender
  let receiver ← accountId? m.receiver
  let zero := Decimal.ofInt 0
  let row : MovementRow :=
    { message, amountSent := m.amountSent.getD zero, amountReceived := m.amountReceived.getD zero,
      denomSent, denomReceived, sender, receiver }
  let _ ← doing "Failed to insert taxable transaction" (insertNew row)

def storeMessage (known : Known) (tx : Nat) (m : Block.MessageRecord) :
    Work (Store ω) Failure Unit := do
  let messageType ← getMessageType m.typeUrl
  let message ← getOrInsert "message" (⟨tx, messageType, m.index⟩ : MessageRow)
  for movement in m.movements do
    storeMovement known message.id movement

def storeTx (known : Known) (block : Nat) (tx : Block.TxRecord) : Work (Store ω) Failure Unit := do
  let signer ← match tx.signer with
    | some signer => (getAccount signer).map some
    | none => pure none
  let id ← getTx tx.hash tx.code block signer
  for f in tx.fees do
    storeFee known id f
  for m in tx.messages do
    storeMessage known id m

def isTxOf (block : Nat) (t : Tables) (tx : Nat) : Bool :=
  (rowAt? t.txs tx).any (·.block == block)

/-- Deletes movements, messages and fees of a block, so that it can be stored anew. -/
def clearBlock (block : Nat) : Work (Store ω) Failure Unit := do
  let _ ← doing "Failed to delete taxable transactions"
    (deleteWhere fun t (r : MovementRow) =>
      (rowAt? t.messages r.message).any fun m => isTxOf block t m.tx)
  let _ ← doing "Failed to delete messages"
    (deleteWhere fun t (r : MessageRow) => isTxOf block t r.tx)
  let _ ← doing "Failed to delete fees" (deleteWhere fun t (r : FeeRow) => isTxOf block t r.tx)

/-! ### Whole blocks -/

inductive BlockOutcome where
  | alreadyIndexed
  | stored (txs movements : Nat)
  deriving DecidableEq, Repr, Inhabited

def movementCount (b : Block.Record) : Nat :=
  ((b.txs.flatMap (·.messages)).flatMap (·.movements)).length

/-- Stores a block in one transaction. A block that is there already is left alone, unless it is to be
indexed anew. -/
def storeBlock (known : Known) (chain : ChainIdentity) (b : Block.Record) (reindex : Bool) :
    Work (Store ω) Failure BlockOutcome :=
  transaction do
    let chain ← getChain chain
    let block ← getBlock chain b.height b.time
    if block.row.hasTxs && !reindex then return .alreadyIndexed
    if block.row.hasTxs then clearBlock block.id
    for tx in b.txs do
      storeTx known block.id tx
    markTxs block.id
    return .stored b.txs.length (movementCount b)

/-! ### Block events -/

/-- The most events of one statement. -/
def batchSize : Nat := 1000

def batches {α : Type} (size : Nat) (items : List α) : List (List α) :=
  if _ : items.length ≤ size ∨ size = 0 then if items.isEmpty then [] else [items]
  else items.take size :: batches size (items.drop size)
termination_by items.length
decreasing_by rw [List.length_drop]; omega

def eventRow (known : Known) (block : Nat) (height : Int) (e : BlockEvent.Record) :
    Work (Store ω) Failure EventRow := do
  let denom ← denomId known e.coin.denom
  let address ← getAccount e.account
  return ⟨e.source.code, e.coin.amount, denom, address, e.hash height, block⟩

def storeEvents (known : Known) (block : Nat) (height : Int) (events : List BlockEvent.Record) :
    Work (Store ω) Failure Nat := do
  let rows ← events.mapM (eventRow known block height)
  let sorted := rows.mergeSort fun a b => decide (a.hash ≤ b.hash)
  let counts ← (batches batchSize sorted).mapM fun batch =>
    (doing "Failed to insert taxable events" (insertAll batch)).mapFailure
      (Failure.within ("Failed to store block events for height " ++ toString height))
  return counts.foldl (· + ·) 0

/-- Stores the events of a block in one transaction. Events that are there already are left alone,
unless the block is to be indexed anew. -/
def storeBlockEvents (known : Known) (chain : ChainIdentity) (height : Int) (time : Timestamp)
    (events : List BlockEvent.Record) (reindex : Bool) : Work (Store ω) Failure Nat :=
  transaction do
    let chain ← getChain chain
    let block ← getBlock chain height time
    if block.row.hasEvents && !reindex then return 0
    let count ← storeEvents known block.id height events
    markEvents block.id
    return count

end TaxLedger.Store
