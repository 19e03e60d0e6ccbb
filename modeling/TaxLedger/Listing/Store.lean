import TaxLedger.Json.Basic
import TaxLedger.Store.History

/-!
# Listing of the store

The contents of the store in JSON. In place of the number of a row stands its key, and the rows of a
table come in the order of their keys, so that the listing does not tell in which order they were put
there.
-/

namespace TaxLedger.Store

namespace Tables

/-- The key of the row of a number, written by `write`; null where there is no such row. -/
def keyOf {α : Type} (rows : List (Numbered α)) (write : α → Json) (id : Nat) : Json :=
  .ofOption write (rowAt? rows id)

variable (t : Tables)

def chainKey : Nat → Json := keyOf t.chains fun r => .str r.chainId

def heightOf : Nat → Json := keyOf t.blocks fun r => .int r.height

def addressKey : Nat → Json := keyOf t.addresses fun r => .str r.address

def denomKey : Nat → Json := keyOf t.denoms fun r => .str r.base

def txKey : Nat → Json := keyOf t.txs fun r => .str r.hash

def unitKey : Nat → Json := keyOf t.units fun r => .str r.name

def messageTypeKey : Nat → Json := keyOf t.messageTypes fun r => .str r.typeUrl

end Tables

structure Listed where
  key : List Json
  columns : List (String × Json)

def keyNotAfter : List Json → List Json → Bool
  | .int a :: as, .int b :: bs => a < b || (a == b && keyNotAfter as bs)
  | .str a :: as, .str b :: bs => a < b || (a == b && keyNotAfter as bs)
  | _, _ => true

def amountJson (d : Decimal) : Json := .str d.render

def listChain (r : Numbered ChainRow) : Listed :=
  ⟨[.str r.row.chainId], [("chain_id", .str r.row.chainId), ("name", .str r.row.name)]⟩

def listBlock (t : Tables) (r : Numbered BlockRow) : Listed :=
  ⟨[t.chainKey r.row.chain, .int r.row.height],
    [("block_events_indexed", .bool r.row.hasEvents), ("chain", t.chainKey r.row.chain),
      ("height", .int r.row.height), ("time", .str r.row.time.render),
      ("tx_indexed", .bool r.row.hasTxs)]⟩

def listFailedBlock (t : Tables) (r : Numbered FailedBlockRow) : Listed :=
  ⟨[t.chainKey r.row.chain, .int r.row.height],
    [("chain", t.chainKey r.row.chain), ("height", .int r.row.height)]⟩

def listAddress (r : Numbered AddressRow) : Listed :=
  ⟨[.str r.row.address], [("address", .str r.row.address)]⟩

def listDenom (r : Numbered DenomRow) : Listed :=
  ⟨[.str r.row.base], [("base", .str r.row.base), ("name", .ofOption .str r.row.name),
    ("symbol", .ofOption .str r.row.symbol)]⟩

def listUnit (t : Tables) (r : Numbered UnitRow) : Listed :=
  ⟨[.str r.row.name], [("denom", t.denomKey r.row.denom), ("exponent", .int r.row.exponent),
    ("name", .str r.row.name)]⟩

def listAlias (t : Tables) (r : Numbered AliasRow) : Listed :=
  ⟨[.str r.row.name], [("alias", .str r.row.name), ("unit", t.unitKey r.row.unit)]⟩

def listTx (t : Tables) (r : Numbered TxRow) : Listed :=
  ⟨[.str r.row.hash], [("code", .int r.row.code), ("hash", .str r.row.hash),
    ("height", t.heightOf r.row.block), ("signer", .ofOption t.addressKey r.row.signer)]⟩

def listFee (t : Tables) (r : Numbered FeeRow) : Listed :=
  ⟨[t.txKey r.row.tx, t.denomKey r.row.denom],
    [("amount", amountJson r.row.amount), ("denom", t.denomKey r.row.denom),
      ("payer", t.addressKey r.row.payer), ("tx", t.txKey r.row.tx)]⟩

def listMessageType (r : Numbered MessageTypeRow) : Listed :=
  ⟨[.str r.row.typeUrl], [("message_type", .str r.row.typeUrl)]⟩

def listMessage (t : Tables) (r : Numbered MessageRow) : Listed :=
  ⟨[t.txKey r.row.tx, .int r.row.index],
    [("index", .int r.row.index), ("tx", t.txKey r.row.tx),
      ("type", t.messageTypeKey r.row.messageType)]⟩

/-- Movements of one message come in the order in which they were stored. -/
def listMovement (t : Tables) (r : Numbered MovementRow) : Listed :=
  let message := rowAt? t.messages r.row.message
  let tx : Json := .ofOption (fun m => t.txKey m.tx) message
  let index : Json := .ofOption (fun m => .int m.index) message
  ⟨[tx, index, .int r.id],
    [("amount_received", amountJson r.row.amountReceived),
      ("amount_sent", amountJson r.row.amountSent),
      ("denom_received", .ofOption t.denomKey r.row.denomReceived),
      ("denom_sent", .ofOption t.denomKey r.row.denomSent), ("index", index),
      ("receiver", .ofOption t.addressKey r.row.receiver),
      ("sender", .ofOption t.addressKey r.row.sender), ("tx", tx)]⟩

def listEvent (t : Tables) (r : Numbered EventRow) : Listed :=
  ⟨[.str r.row.hash],
    [("address", t.addressKey r.row.address), ("amount", amountJson r.row.amount),
      ("denom", t.denomKey r.row.denom), ("hash", .str r.row.hash),
      ("height", t.heightOf r.row.block), ("source", .int r.row.source)]⟩

def listEpoch (t : Tables) (r : Numbered EpochRow) : Listed :=
  ⟨[t.chainKey r.row.chain, .str r.row.identifier, .int r.row.number],
    [("block_events_indexed", .bool r.row.hasEvents), ("chain", t.chainKey r.row.chain),
      ("epoch_number", .int r.row.number), ("identifier", .str r.row.identifier),
      ("start_height", .int r.row.startHeight)]⟩

def Tables.listed (t : Tables) : List (Table × List Listed) :=
  [(.addresses, t.addresses.map listAddress), (.blocks, t.blocks.map (listBlock t)),
    (.chains, t.chains.map listChain), (.aliases, t.aliases.map (listAlias t)),
    (.units, t.units.map (listUnit t)), (.denoms, t.denoms.map listDenom),
    (.epochs, t.epochs.map (listEpoch t)), (.failedBlocks, t.failedBlocks.map (listFailedBlock t)),
    (.fees, t.fees.map (listFee t)), (.messageTypes, t.messageTypes.map listMessageType),
    (.messages, t.messages.map (listMessage t)), (.events, t.events.map (listEvent t)),
    (.movements, t.movements.map (listMovement t)), (.txs, t.txs.map (listTx t))]

def Tables.toJson (t : Tables) (write : List Listed → Json) : Json :=
  .obj ((t.listed.filter fun (_, rows) => !rows.isEmpty).map fun (table, rows) =>
    (table.name, write (rows.mergeSort fun a b => keyNotAfter a.key b.key)))

def writeRows : List Listed → Json := .ofList fun r => .obj r.columns

def writeCount (rows : List Listed) : Json := .int rows.length

end TaxLedger.Store
