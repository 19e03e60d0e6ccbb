import TaxLedger.Block.Record
import TaxLedger.BlockEvent.Record
import TaxLedger.Export
import TaxLedger.FileTree

/-!
# Records in JSON

For a rehearsal: blocks, events, rows and files as they are written in JSON. What is missing is empty,
and amounts are texts.
-/

namespace TaxLedger.Rehearsal

def text? (v : Json) (name : String) : Option String := (v.get? name).bind Json.asString?

def text (v : Json) (name : String) : String := (text? v name).getD ""

def integer? (v : Json) (name : String) : Option Int :=
  match v.get? name with
  | some (.int n) => some n
  | _ => none

def integer (v : Json) (name : String) : Int := (integer? v name).getD 0

def decimal? (v : Json) (name : String) : Option Decimal := (text? v name).bind Decimal.ofString?

def decimal (v : Json) (name : String) : Decimal := (decimal? v name).getD 0

/-- A point in time written without an offset. -/
def time (v : Json) (name : String) : Timestamp :=
  (Timestamp.parse? (text v name ++ "Z")).getD ⟨0, 0⟩

def list {α : Type} (read : Json → α) (v : Json) (name : String) : List α :=
  (((v.get? name).bind Json.asArray?).getD []).map read

def coin (v : Json) : Coin := ⟨decimal v "amount", text v "denom"⟩

def fee (v : Json) : Block.FeeRecord := ⟨text v "payer", coin v⟩

def movement (v : Json) : Movement :=
  ⟨text v "sender", text v "receiver", decimal? v "amount_sent", text? v "denom_sent",
    decimal? v "amount_received", text? v "denom_received"⟩

def message (v : Json) : Block.MessageRecord :=
  ⟨integer v "index", text v "type_url", list movement v "movements"⟩

def tx (v : Json) : Block.TxRecord :=
  ⟨text v "hash", integer v "code", text? v "signer", list fee v "fees", list message v "messages"⟩

def block (v : Json) : Block.Record := ⟨integer v "height", time v "time", list tx v "txs"⟩

def event (v : Json) : BlockEvent.Record :=
  ⟨(BlockEvent.Source.ofCode? (integer v "source")).getD .rewardDistribution, text v "address",
    coin v⟩

/-! ### Denominations and histories -/

def denomRow (v : Json) : Denom.DenomRow :=
  ⟨integer v "id", text v "base", text? v "name", text? v "symbol"⟩

def unitRow (v : Json) : Denom.UnitRow :=
  ⟨integer v "id", integer v "denom_id", integer v "exponent", text v "name"⟩

def aliasRow (v : Json) : Denom.AliasRow :=
  ⟨integer v "id", integer v "denom_unit_id", text v "alias"⟩

def denomRows (v : Json) : Denom.Rows :=
  ⟨list denomRow v "denoms", list unitRow v "units", list aliasRow v "aliases"⟩

def movementEntry (v : Json) : Export.MovementEntry :=
  ⟨time v "time", integer v "height", text v "hash", text v "message_type", decimal v "amount_sent",
    decimal v "amount_received", text? v "denom_sent", text? v "denom_received", text? v "sender",
    text? v "receiver"⟩

def eventEntry (v : Json) : Export.EventEntry :=
  ⟨time v "time", integer v "height", integer v "source", decimal v "amount", text v "denom",
    text v "address"⟩

def feeEntry (v : Json) : Export.FeeEntry :=
  ⟨time v "time", integer v "height", text v "hash", decimal v "amount", text v "denom",
    text v "payer"⟩

def history (known : Denom.Known) (v : Json) : List Export.Row :=
  Export.rows known (list movementEntry v "movements") (list eventEntry v "events")
    (list feeEntry v "fees")

/-- The directory of files under their paths. An entry that is not a text is an empty directory. -/
def fileTree (v : Json) : FileTree :=
  (v.asObject?.getD []).foldl
    (fun tree (path, entry) =>
      FileTree.insert ((entry.asString?.map .file).getD (.directory [])) (FileTree.pathNames path) tree)
    (.directory [])

end TaxLedger.Rehearsal
