import TaxLedger.Store.Column
import TaxLedger.Store.Row

/-!
# Tables

The tables of the store. Each kind of rows has its table, its key, the values that fit into its columns
and the rows it refers to.
-/

namespace TaxLedger.Store

inductive Table where
  | chains
  | blocks
  | failedBlocks
  | addresses
  | denoms
  | units
  | aliases
  | txs
  | fees
  | messageTypes
  | messages
  | movements
  | events
  | epochs
  deriving DecidableEq, Repr, Inhabited

namespace Table

def all : List Table :=
  [.chains, .blocks, .failedBlocks, .addresses, .denoms, .units, .aliases, .txs, .fees, .messageTypes,
    .messages, .movements, .events, .epochs]

def name : Table → String
  | .chains => "chains"
  | .blocks => "blocks"
  | .failedBlocks => "failed_blocks"
  | .addresses => "addresses"
  | .denoms => "denoms"
  | .units => "denom_units"
  | .aliases => "denom_unit_aliases"
  | .txs => "txes"
  | .fees => "fees"
  | .messageTypes => "message_types"
  | .messages => "messages"
  | .movements => "taxable_txs"
  | .events => "taxable_events"
  | .epochs => "epochs"

def ofName? (name : String) : Option Table := all.find? fun t => t.name == name

end Table

/-- The contents of all tables, each in the order in which its rows came. -/
structure Tables where
  /-- The layouts that have been set up. -/
  layouts : List String := []
  chains : List (Numbered ChainRow) := []
  blocks : List (Numbered BlockRow) := []
  failedBlocks : List (Numbered FailedBlockRow) := []
  addresses : List (Numbered AddressRow) := []
  denoms : List (Numbered DenomRow) := []
  units : List (Numbered UnitRow) := []
  aliases : List (Numbered AliasRow) := []
  txs : List (Numbered TxRow) := []
  fees : List (Numbered FeeRow) := []
  messageTypes : List (Numbered MessageTypeRow) := []
  messages : List (Numbered MessageRow) := []
  movements : List (Numbered MovementRow) := []
  events : List (Numbered EventRow) := []
  epochs : List (Numbered EpochRow) := []
  deriving Inhabited

def hasRow {α : Type} (rows : List (Numbered α)) (id : Nat) : Bool := rows.any (·.id == id)

def rowAt? {α : Type} (rows : List (Numbered α)) (id : Nat) : Option α :=
  (rows.find? (·.id == id)).map (·.row)

class Stored (α : Type) where
  table : Table
  rows : Tables → List (Numbered α)
  replaceRows : List (Numbered α) → Tables → Tables
  /-- Whether two rows have the same key. -/
  sameKey : α → α → Bool
  /-- The row as its columns hold it. -/
  fit : α → Except StoreError α
  /-- Whether the rows that it refers to are there. -/
  refersTo : Tables → α → Bool := fun _ _ => true

instance : Stored ChainRow where
  table := .chains
  rows := Tables.chains
  replaceRows rows t := { t with chains := rows }
  sameKey a b := a.chainId == b.chainId
  fit r := do
    fitCells [.short r.chainId, .short r.name]
    return r

instance : Stored BlockRow where
  table := .blocks
  rows := Tables.blocks
  replaceRows rows t := { t with blocks := rows }
  sameKey a b := a.chain == b.chain && a.height == b.height
  fit r := .ok { r with time := fitTime r.time }
  refersTo t r := hasRow t.chains r.chain

instance : Stored FailedBlockRow where
  table := .failedBlocks
  rows := Tables.failedBlocks
  replaceRows rows t := { t with failedBlocks := rows }
  sameKey a b := a.chain == b.chain && a.height == b.height
  fit r := .ok r
  refersTo t r := hasRow t.chains r.chain

instance : Stored AddressRow where
  table := .addresses
  rows := Tables.addresses
  replaceRows rows t := { t with addresses := rows }
  sameKey a b := a.address == b.address
  fit r := do
    fitCells [.long r.address]
    return r

instance : Stored DenomRow where
  table := .denoms
  rows := Tables.denoms
  replaceRows rows t := { t with denoms := rows }
  sameKey a b := a.base == b.base
  fit r := do
    fitCells (.long r.base :: Cell.long? r.name ++ Cell.long? r.symbol)
    return r

instance : Stored UnitRow where
  table := .units
  rows := Tables.units
  replaceRows rows t := { t with units := rows }
  sameKey a b := a.name == b.name
  fit r := do
    fitCells [.long r.name]
    return r
  refersTo t r := hasRow t.denoms r.denom

instance : Stored AliasRow where
  table := .aliases
  rows := Tables.aliases
  replaceRows rows t := { t with aliases := rows }
  sameKey a b := a.name == b.name
  fit r := do
    fitCells [.long r.name]
    return r
  refersTo t r := hasRow t.units r.unit

instance : Stored TxRow where
  table := .txs
  rows := Tables.txs
  replaceRows rows t := { t with txs := rows }
  sameKey a b := a.hash == b.hash
  fit r := do
    fitCells [.short r.hash]
    return r
  refersTo t r := hasRow t.blocks r.block && r.signer.all (hasRow t.addresses)

instance : Stored FeeRow where
  table := .fees
  rows := Tables.fees
  replaceRows rows t := { t with fees := rows }
  sameKey a b := a.tx == b.tx && a.denom == b.denom
  fit r := do
    let amount ← fitAmount r.amount
    return { r with amount }
  refersTo t r := hasRow t.txs r.tx && hasRow t.denoms r.denom && hasRow t.addresses r.payer

instance : Stored MessageTypeRow where
  table := .messageTypes
  rows := Tables.messageTypes
  replaceRows rows t := { t with messageTypes := rows }
  sameKey a b := a.typeUrl == b.typeUrl
  fit r := do
    fitCells [.long r.typeUrl]
    return r

instance : Stored MessageRow where
  table := .messages
  rows := Tables.messages
  replaceRows rows t := { t with messages := rows }
  sameKey a b := a.tx == b.tx && a.index == b.index
  fit r := .ok r
  refersTo t r := hasRow t.txs r.tx && hasRow t.messageTypes r.messageType

/-- Movements have no key. -/
instance : Stored MovementRow where
  table := .movements
  rows := Tables.movements
  replaceRows rows t := { t with movements := rows }
  sameKey _ _ := false
  fit r := do
    let amountSent ← fitAmount r.amountSent
    let amountReceived ← fitAmount r.amountReceived
    return { r with amountSent, amountReceived }
  refersTo t r :=
    hasRow t.messages r.message &&
      r.denomSent.all (hasRow t.denoms) && r.denomReceived.all (hasRow t.denoms) &&
      r.sender.all (hasRow t.addresses) && r.receiver.all (hasRow t.addresses)

instance : Stored EventRow where
  table := .events
  rows := Tables.events
  replaceRows rows t := { t with events := rows }
  sameKey a b := a.hash == b.hash
  fit r := do
    fitCells [.short r.hash]
    let amount ← fitAmount r.amount
    return { r with amount }
  refersTo t r := hasRow t.denoms r.denom && hasRow t.addresses r.address && hasRow t.blocks r.block

instance : Stored EpochRow where
  table := .epochs
  rows := Tables.epochs
  replaceRows rows t := { t with epochs := rows }
  sameKey a b := a.chain == b.chain && a.identifier == b.identifier && a.number == b.number
  fit r := do
    fitCells [.short r.identifier]
    return r
  refersTo t r := hasRow t.chains r.chain

end TaxLedger.Store
