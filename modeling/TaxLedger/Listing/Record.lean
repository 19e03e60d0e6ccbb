import TaxLedger.Block.Record
import TaxLedger.BlockEvent.Record
import TaxLedger.Config.Basic
import TaxLedger.Denom.Convert
import TaxLedger.Message.Registry
import TaxLedger.Node.Answer

/-!
# Listings

What has been decoded, what a node has told and what the settings are, in JSON. Amounts are texts, so
that no digit is lost.
-/

namespace TaxLedger

/-! ### Records -/

def Coin.toJson (c : Coin) : Json :=
  .obj [("amount", .str c.amount.render), ("denom", .str c.denom)]

def Movement.toJson (m : Movement) : Json :=
  let amount : Option Decimal → Json := .ofOption fun d => .str d.render
  .obj [("sender", .str m.sender), ("receiver", .str m.receiver),
    ("amount_sent", amount m.amountSent), ("denom_sent", .ofOption .str m.denomSent),
    ("amount_received", amount m.amountReceived), ("denom_received", .ofOption .str m.denomReceived)]

def Message.Decoded.toJson (m : Message.Decoded) : Json :=
  .obj [("type_url", .str m.typeUrl), ("description", .str m.description),
    ("movements", .ofList Movement.toJson m.movements)]

namespace Block

def FeeRecord.toJson (f : FeeRecord) : Json :=
  .obj [("payer", .str f.payer), ("coin", f.coin.toJson)]

def MessageRecord.toJson (m : MessageRecord) : Json :=
  .obj [("index", .int m.index), ("type_url", .str m.typeUrl),
    ("movements", .ofList Movement.toJson m.movements)]

def TxRecord.toJson (tx : TxRecord) : Json :=
  .obj [("hash", .str tx.hash), ("code", .int tx.code), ("signer", .ofOption .str tx.signer),
    ("fees", .ofList FeeRecord.toJson tx.fees),
    ("messages", .ofList MessageRecord.toJson tx.messages)]

def Record.toJson (r : Record) : Json :=
  .obj [("height", .int r.height), ("time", .str r.time.render),
    ("txs", .ofList TxRecord.toJson r.txs)]

end Block

def BlockEvent.Record.toJson (height : Int) (r : BlockEvent.Record) : Json :=
  .obj [("source", .int r.source.code), ("source_name", .str r.source.label),
    ("address", .str r.account), ("coin", r.coin.toJson), ("hash", .str (r.hash height))]

def Denom.Shown.toJson (s : Denom.Shown) : Json :=
  .obj [("value", .str s.value.render), ("symbol", .str s.symbol)]

/-! ### Answers of a node -/

def CoinText.toJson (c : CoinText) : Json := .obj [("denom", .str c.denom), ("amount", .str c.amount)]

def Fee.toJson (f : Fee) : Json :=
  .obj [("amount", .ofList CoinText.toJson f.amount), ("gas_limit", .int f.gasLimit),
    ("payer", .str f.payer), ("granter", .str f.granter)]

def SignedTx.toJson (tx : SignedTx) : Json :=
  .obj [("messages", .arr tx.messages), ("memo", .str tx.memo),
    ("signers", .ofList (.ofOption id) tx.signers), ("fee", tx.fee.toJson)]

def TxResult.toJson (r : TxResult) : Json :=
  .obj [("height", .int r.height), ("txhash", .str r.hash), ("code", .int r.code),
    ("raw_log", .str r.rawLog), ("logs", .ofList LogEntry.toJson r.logs),
    ("events", .ofList Event.toJson r.events)]

def Transaction.toJson (tx : Transaction) : Json :=
  .obj [("tx", tx.signed.toJson), ("response", tx.result.toJson)]

def PageInfo.toJson (p : PageInfo) : Json :=
  .obj [("next_key", .ofOption .str p.nextKey), ("total", .int p.total)]

def TxPage.toJson (p : TxPage) : Json :=
  .obj [("txs", .ofList SignedTx.toJson p.signed), ("tx_responses", .ofList TxResult.toJson p.results),
    ("pagination", .ofOption PageInfo.toJson p.page), ("total", .int p.total)]

def BlockHeader.toJson (h : BlockHeader) : Json :=
  .obj [("chain_id", .str h.chainId), ("height", .int h.height), ("time", .str h.time.render)]

def NodeStatus.toJson (s : NodeStatus) : Json :=
  .obj [("latest_block_height", .int s.latestHeight), ("catching_up", .bool s.catchingUp)]

def RpcAnswer.toJson {α : Type} (write : α → Json) (a : RpcAnswer α) : Json :=
  .obj [("result", .ofOption write a.result), ("error", .ofOption id a.error)]

def ContractPage.toJson (p : ContractPage) : Json :=
  .obj [("contracts", .ofTexts p.contracts), ("pagination", .ofOption PageInfo.toJson p.page)]

def EpochInfo.toJson (e : EpochInfo) : Json :=
  .obj [("identifier", .str e.identifier), ("current_epoch", .int e.number),
    ("current_epoch_start_height", .int e.startHeight)]

def BlockEvent.Results.toJson (r : BlockEvent.Results) : Json :=
  .obj [("height", .int r.height), ("begin_block_events", .ofList Event.toJson r.beginEvents),
    ("end_block_events", .ofList Event.toJson r.endEvents)]

/-! ### Settings -/

/-- All settings, each under its name, and what follows from them. -/
def Config.toJson (c : Config) : Json :=
  let base := c.base
  let count (n : Nat) : Json := .int n
  .obj [
    ("assetlist", .obj [("blacklist", .ofTexts c.assetList.blacklist),
      ("location", .ofOption .str c.assetList.location)]),
    ("base", .obj [
      ("block_events_end_block", .int base.blockEventsEnd),
      ("block_events_start_block", .int base.blockEventsStart),
      ("block_input_file", .ofOption .str base.blockInputFile),
      ("block_timer", count base.blockTimer),
      ("dry", .bool base.dry),
      ("end_block", .int base.endBlock),
      ("epoch_events_end_epoch", .int base.epochEnd),
      ("epoch_events_start_epoch", .int base.epochStart),
      ("epoch_indexing_identifier", .str base.epochIdentifier),
      ("exit_when_caught_up", .bool base.exitWhenCaughtUp),
      ("index_block_events", .bool base.indexBlockEvents),
      ("index_chain", .bool base.indexChain),
      ("index_epoch_events", .bool base.indexEpochEvents),
      ("prevent_reattempts", .bool base.preventReattempts),
      ("queue_size", count base.queueSize),
      ("reindex", .bool base.reindex),
      ("rpc_retry_attempts", .int base.retryAttempts),
      ("rpc_retry_max_wait", .int base.retryMaxWait),
      ("rpc_workers", count base.workers),
      ("shutdown_grace", count base.shutdownGrace),
      ("start_block", .int base.startBlock),
      ("wait_for_chain", .bool base.waitForChain),
      ("wait_for_chain_delay", count base.waitDelay)]),
    ("chain", .obj [("account_prefix", .str c.chain.accountPrefix), ("id", .str c.chain.id),
      ("name", .str c.chain.name)]),
    ("code_ids", .obj (c.codeIds.map fun (codeId, name) => (codeId, .str name))),
    ("node", .obj [("api", .str c.node.api), ("rpc", .str c.node.rpc),
      ("timeout", count c.node.timeout)]),
    ("parsed_code_ids", .ofList (fun (codeId, name) => .arr [count codeId, .str name])
      c.contractCodeIds),
    ("request_timeout_secs", count c.node.timeout),
    ("shutdown_grace_secs", count base.shutdownGrace),
    ("throttle_nanos", .ofOption (fun n => .str (toString n)) c.throttleNanos?)]

end TaxLedger
