import TaxLedger.BlockEvent.Record
import TaxLedger.Denom.Convert
import TaxLedger.Time.Basic

/-!
# Export

The tax history of an account: movements of transactions, events of blocks and fees merged by time.
The merge is stable: at one time movements come before events and events before fees, each kind in
its own order.
-/

namespace TaxLedger.Export

/-- A movement of a transaction that concerns the account. -/
structure MovementEntry where
  time : Timestamp
  height : Int
  hash : String
  messageType : String
  amountSent : Decimal
  amountReceived : Decimal
  denomSent : Option String := none
  denomReceived : Option String := none
  sender : Option String := none
  receiver : Option String := none
  deriving Repr, Inhabited

structure EventEntry where
  time : Timestamp
  height : Int
  /-- The code of the event's source. -/
  source : Int
  amount : Decimal
  denom : String
  account : String
  deriving Repr, Inhabited

structure FeeEntry where
  time : Timestamp
  height : Int
  hash : String
  amount : Decimal
  denom : String
  payer : String
  deriving Repr, Inhabited

inductive Kind where
  | transaction
  | event
  | fee
  deriving DecidableEq, Repr, Inhabited

def Kind.word : Kind → String
  | .transaction => "transaction"
  | .event => "event"
  | .fee => "fee"

structure Amount where
  amount : Decimal
  denom : String
  shown : Denom.Shown
  deriving DecidableEq, Repr, Inhabited

/-- A line of the tax history. -/
structure Row where
  kind : Kind
  time : Timestamp
  height : Int
  /-- The hash of the transaction; empty for events. -/
  hash : String := ""
  /-- The type of the message, the source of the event, or the word for a fee. -/
  label : String
  sent : Option Amount := none
  received : Option Amount := none
  sender : Option String := none
  receiver : Option String := none
  deriving DecidableEq, Repr, Inhabited

/-- An amount with what is shown of it; `none` without a denomination. -/
def amountOf (known : Denom.Known) (amount : Decimal) (denom : Option String) : Option Amount :=
  match denom with
  | none => none
  | some denom =>
    if denom = "" then none else some ⟨amount, denom, known.convertOrRaw amount denom⟩

def MovementEntry.row (known : Denom.Known) (e : MovementEntry) : Row where
  kind := .transaction
  time := e.time
  height := e.height
  hash := e.hash
  label := e.messageType
  sent := amountOf known e.amountSent e.denomSent
  received := amountOf known e.amountReceived e.denomReceived
  sender := e.sender
  receiver := e.receiver

/-- The name of a source, or its code where it has none. -/
def sourceLabel (code : Int) : String :=
  match BlockEvent.Source.ofCode? code with
  | some source => source.label
  | none => "source " ++ toString code

def EventEntry.row (known : Denom.Known) (e : EventEntry) : Row :=
  let outflow := (BlockEvent.Source.ofCode? e.source).any (·.isOutflow)
  let amount := amountOf known e.amount (some e.denom)
  let row : Row :=
    { kind := .event, time := e.time, height := e.height, label := sourceLabel e.source }
  if outflow then { row with sent := amount, sender := some e.account }
  else { row with received := amount, receiver := some e.account }

def FeeEntry.row (known : Denom.Known) (e : FeeEntry) : Row where
  kind := .fee
  time := e.time
  height := e.height
  hash := e.hash
  label := "fee"
  sent := amountOf known e.amount (some e.denom)
  sender := some e.payer

def rows (known : Denom.Known) (movements : List MovementEntry) (events : List EventEntry)
    (fees : List FeeEntry) : List Row :=
  (movements.map (·.row known) ++ events.map (·.row known) ++ fees.map (·.row known)).mergeSort
    fun a b => a.time.notAfter b.time

/-! ### JSON -/

def Amount.toJson (a : Amount) : Json :=
  .obj [("amount", .str a.amount.render), ("denom", .str a.denom),
    ("value", .str a.shown.value.render), ("symbol", .str a.shown.symbol)]

def Row.toJson (r : Row) : Json :=
  .obj [("kind", .str r.kind.word), ("time", .str r.time.render), ("height", .int r.height),
    ("tx_hash", .str r.hash), ("label", .str r.label), ("sent", .ofOption Amount.toJson r.sent),
    ("received", .ofOption Amount.toJson r.received), ("sender", .ofOption .str r.sender),
    ("receiver", .ofOption .str r.receiver)]

end TaxLedger.Export
