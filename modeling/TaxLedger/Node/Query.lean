import TaxLedger.Node.Paging
import TaxLedger.Node.Request

/-!
# Queries to a node

What a node is asked for: its state, the header, the transactions and the results of a block, the
contracts made from a code, and the current epochs.
-/

namespace TaxLedger.Node

variable {σ : Type} (node : Node σ)

def call {α : Type} (value? : Json → Option α) (path : String)
    (query : List (String × String)) : Work σ NodeError α := do
  let answer ← node.get (RpcAnswer.ofJson? value?) ⟨.procedures, path, query⟩
  match answer.result with
  | some result => return result
  | none =>
    let reason := match answer.error with
      | some e => e.render
      | none => "missing result"
    throw (.malformed (node.url .procedures path) (some reason))

def status : Work σ NodeError NodeStatus := node.call NodeStatus.ofJson? "/status" []

def blockHeader (height : Int) : Work σ NodeError BlockHeader :=
  node.get BlockHeader.ofBlock?
    ⟨.resources, "/cosmos/base/tendermint/v1beta1/blocks/" ++ toString height, []⟩

def txsPath : String := "/cosmos/tx/v1beta1/txs"

/-- The request for the transactions at a height behind the first `offset`. -/
def txRequest (height : Int) (offset : Nat) : Request :=
  ⟨.resources, txsPath, [
    ("events", "tx.height=" ++ toString height),
    ("pagination.limit", toString pageLimit),
    ("pagination.offset", toString offset),
    ("pagination.count_total", "true")]⟩

def txPage (height : Int) (offset : Nat) : Work σ NodeError TxPage :=
  node.get TxPage.ofJson? (txRequest height offset)

def txsAtHeight (height : Int) : Work σ NodeError (List Transaction) :=
  TxPage.collect
    (fun page => .malformed (node.url .resources txsPath) (some (page.mismatch height)))
    (node.txPage height)

def blockResults (height : Int) : Work σ NodeError BlockEvent.Results := do
  let raw ← node.call BlockEvent.RawResults.ofJson? "/block_results" [("height", toString height)]
  match raw.normalize with
  | .ok results => return results
  | .error reason =>
    throw (.malformed (node.url .procedures ("/block_results?height=" ++ toString height))
      (some reason))

def contractPage (codeId : Nat) (key? : Option String) : Work σ NodeError ContractPage :=
  node.get ContractPage.ofJson?
    ⟨.resources, "/cosmwasm/wasm/v1/code/" ++ toString codeId ++ "/contracts",
      ("pagination.limit", toString pageLimit) ::
        (key?.map fun key => ("pagination.key", key)).toList⟩

def contracts (patience codeId : Nat) : Work σ NodeError (List String) :=
  ContractPage.collect (node.contractPage codeId) patience

def epochs : Work σ NodeError (List EpochInfo) :=
  node.get readEpochs ⟨.resources, "/osmosis/epochs/v1beta1/epochs", []⟩

end TaxLedger.Node
