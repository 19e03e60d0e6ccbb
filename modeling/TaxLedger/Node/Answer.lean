import TaxLedger.BlockEvent.Results
import TaxLedger.Time.Parse
import TaxLedger.Transaction

/-!
# Answers of a node

The forms of what a node tells: pages of transactions and contracts, the header of a block, its own
state, and epochs.
-/

namespace TaxLedger

/-- Where a page stands in a list: the key of the next page and the length of the list. -/
structure PageInfo where
  nextKey : Option String := none
  total : Int := 0
  deriving DecidableEq, Repr, Inhabited

structure TxPage where
  signed : List SignedTx := []
  results : List TxResult := []
  page : Option PageInfo := none
  total : Int := 0
  deriving Inhabited

structure BlockHeader where
  chainId : String := ""
  height : Int
  time : Timestamp
  deriving DecidableEq, Repr, Inhabited

structure NodeStatus where
  latestHeight : Int
  catchingUp : Bool := false
  deriving DecidableEq, Repr, Inhabited

structure ContractPage where
  contracts : List String := []
  page : Option PageInfo := none
  deriving DecidableEq, Repr, Inhabited

structure EpochInfo where
  identifier : String
  number : Int
  startHeight : Int
  deriving DecidableEq, Repr, Inhabited

structure RpcAnswer (α : Type) where
  result : Option α := none
  error : Option Json := none

def PageInfo.ofJson? (v : Json) : Option PageInfo :=
  match v.record? ["next_key", "total"] with
  | some [nextKey, total] => do
    let nextKey ← Json.withDefault none (Json.nullable Json.readString) nextKey
    let total ← Json.withDefault 0 Json.readCount total
    return ⟨nextKey, total⟩
  | _ => none

def TxPage.ofJson? (v : Json) : Option TxPage :=
  match v.record? ["txs", "tx_responses", "pagination", "total"] with
  | some [txs, results, page, total] => do
    let txs ← Json.withDefault [] (Json.readList SignedTx.ofJson?) txs
    let results ← Json.withDefault [] (Json.readList TxResult.ofJson?) results
    let page ← Json.withDefault none (Json.nullable PageInfo.ofJson?) page
    let total ← Json.withDefault 0 Json.readCount total
    return ⟨txs, results, page, total⟩
  | _ => none

def readTimestamp : Json → Option Timestamp
  | .str s => Timestamp.parse? s
  | _ => none

def BlockHeader.ofJson? (v : Json) : Option BlockHeader :=
  match v.record? ["chain_id", "height", "time"] with
  | some [chainId, height, time] => do
    let chainId ← Json.withDefault "" Json.readString chainId
    let height ← Json.required Json.readCount height
    let time ← Json.required readTimestamp time
    return ⟨chainId, height, time⟩
  | _ => none

def readOnly {α : Type} (name : String) (read : Json → Option α) (v : Json) : Option α :=
  match v.record? [name] with
  | some [field] => Json.required read field
  | _ => none

def BlockHeader.ofBlock? : Json → Option BlockHeader :=
  readOnly "block" (readOnly "header" BlockHeader.ofJson?)

def NodeStatus.ofSyncInfo? (v : Json) : Option NodeStatus :=
  match v.record? ["latest_block_height", "catching_up"] with
  | some [height, catchingUp] => do
    let height ← Json.required Json.readCount height
    let catchingUp ← Json.withDefault false Json.readBool catchingUp
    return ⟨height, catchingUp⟩
  | _ => none

def NodeStatus.ofJson? : Json → Option NodeStatus := readOnly "sync_info" NodeStatus.ofSyncInfo?

def ContractPage.ofJson? (v : Json) : Option ContractPage :=
  match v.record? ["contracts", "pagination"] with
  | some [contracts, page] => do
    let contracts ← Json.withDefault [] (Json.readList Json.readString) contracts
    let page ← Json.withDefault none (Json.nullable PageInfo.ofJson?) page
    return ⟨contracts, page⟩
  | _ => none

def EpochInfo.ofJson? (v : Json) : Option EpochInfo :=
  match v.record? ["identifier", "current_epoch", "current_epoch_start_height"] with
  | some [identifier, number, startHeight] => do
    let identifier ← Json.required Json.readString identifier
    let number ← Json.required Json.readCount number
    let startHeight ← Json.required Json.readCount startHeight
    return ⟨identifier, number, startHeight⟩
  | _ => none

def readEpochs (v : Json) : Option (List EpochInfo) :=
  match v.record? ["epochs"] with
  | some [epochs] => Json.withDefault [] (Json.readList EpochInfo.ofJson?) epochs
  | _ => none

/-- An answer with its result read by `read`. As an array it holds at least the result. -/
def RpcAnswer.ofJson? {α : Type} (read : Json → Option α) (v : Json) : Option (RpcAnswer α) :=
  match v.recordWith? 1 ["result", "error"] with
  | some [result, error] => do
    let result ← Json.withDefault none (Json.nullable read) result
    let error ← Json.withDefault none (Json.nullable Json.readValue) error
    return ⟨result, error⟩
  | _ => none

end TaxLedger
