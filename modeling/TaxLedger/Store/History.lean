import TaxLedger.Export
import TaxLedger.Store.Connection
import TaxLedger.Text.LowerCase

/-!
# The history of an account

What the store holds on an account from one point in time up to another: the movements from or to it,
its block events and the fees it paid.
-/

namespace TaxLedger.Store

open Denom (Known)
open Export (MovementEntry EventEntry FeeEntry)

variable {ω : Type} [Server ω]

/-- An account from one point in time up to, not including, another. -/
structure Period where
  account : String
  first : Timestamp
  limit : Timestamp
  deriving DecidableEq, Repr, Inhabited

def Period.covers (p : Period) (t : Timestamp) : Bool :=
  (fitTime p.first).notAfter t && !(fitTime p.limit).notAfter t

def addressText? (t : Tables) (id : Nat) : Option String := (rowAt? t.addresses id).map (·.address)

def denomText? (t : Tables) (id : Nat) : Option String := (rowAt? t.denoms id).map (·.base)

/-- An entry with its place among those of one time: hash, index and number. -/
structure Placed (α : Type) where
  time : Timestamp
  hash : String
  index : Int
  id : Nat
  entry : α

def Placed.notAfter {α : Type} (a b : Placed α) : Bool :=
  if a.time != b.time then a.time.notAfter b.time
  else if a.hash != b.hash then a.hash < b.hash
  else if a.index != b.index then a.index < b.index
  else a.id ≤ b.id

def inOrder {α : Type} (entries : List (Placed α)) : List α :=
  (entries.mergeSort Placed.notAfter).map (·.entry)

/-- A movement with all it refers to, if it concerns the account in the period. -/
def movementOf? (p : Period) (t : Tables) (r : Numbered MovementRow) :
    Option (Placed MovementEntry) := do
  let message ← rowAt? t.messages r.row.message
  let messageType ← rowAt? t.messageTypes message.messageType
  let tx ← rowAt? t.txs message.tx
  let block ← rowAt? t.blocks tx.block
  let sender := r.row.sender.bind (addressText? t)
  let receiver := r.row.receiver.bind (addressText? t)
  if (sender == some p.account || receiver == some p.account) && p.covers block.time then
    some ⟨block.time, tx.hash, message.index, r.id,
      { time := block.time, height := block.height, hash := tx.hash,
        messageType := messageType.typeUrl, amountSent := r.row.amountSent,
        amountReceived := r.row.amountReceived, denomSent := r.row.denomSent.bind (denomText? t),
        denomReceived := r.row.denomReceived.bind (denomText? t), sender, receiver }⟩
  else none

def eventOf? (p : Period) (t : Tables) (r : Numbered EventRow) : Option (Placed EventEntry) := do
  let block ← rowAt? t.blocks r.row.block
  let denom ← denomText? t r.row.denom
  let account ← addressText? t r.row.address
  if account == p.account && p.covers block.time then
    some ⟨block.time, r.row.hash, 0, r.id,
      { time := block.time, height := block.height, source := r.row.source,
        amount := r.row.amount, denom, account }⟩
  else none

def feeOf? (p : Period) (t : Tables) (r : Numbered FeeRow) : Option (Placed FeeEntry) := do
  let tx ← rowAt? t.txs r.row.tx
  let block ← rowAt? t.blocks tx.block
  let denom ← denomText? t r.row.denom
  let payer ← addressText? t r.row.payer
  if payer == p.account && p.covers block.time then
    some ⟨block.time, tx.hash, 0, r.id,
      { time := block.time, height := block.height, hash := tx.hash, amount := r.row.amount,
        denom, payer }⟩
  else none

def entries {α β : Type} [Stored α] (p : Period) (pick : Tables → Numbered α → Option (Placed β)) :
    Work (Store ω) StoreError (List β) :=
  execute (.select (Stored.table α)) fun nextId tables => do
    refuseNull [p.account]
    return (inOrder ((Stored.rows tables).filterMap (pick tables)), nextId, tables)

/-- The tax history of an account, whose name may be written in any case. -/
def history (known : Known) (p : Period) : Work (Store ω) Failure (List Export.Row) :=
  let lower : Period := { p with account := Text.lower p.account }
  Work.mapFailure (Failure.within ("Failed to export rows for " ++ p.account)) do
    let movements ← doing "Failed to export taxable transactions"
      (entries lower (movementOf? lower))
    let events ← doing "Failed to export taxable events" (entries lower (eventOf? lower))
    let fees ← doing "Failed to export fees" (entries lower (feeOf? lower))
    return Export.rows known movements events fees

end TaxLedger.Store
