import TaxLedger.Coin
import TaxLedger.Event.ByMessage

/-!
# Transactions

A transaction as it was signed, joined with the result of its execution, both as a node tells them.
-/

namespace TaxLedger

structure Fee where
  amount : List CoinText := []
  gasLimit : Int := 0
  payer : String := ""
  granter : String := ""
  deriving DecidableEq, Repr, Inhabited

/-- A signed transaction. A signer is known by its public key, which may be missing. -/
structure SignedTx where
  messages : List Json := []
  memo : String := ""
  signers : List (Option Json) := []
  fee : Fee := {}
  deriving Inhabited

structure TxResult where
  height : Int := 0
  hash : String := ""
  code : Int := 0
  rawLog : String := ""
  logs : List LogEntry := []
  events : List Event := []
  deriving DecidableEq, Repr, Inhabited

structure Transaction where
  signed : SignedTx := {}
  result : TxResult := {}
  deriving Inhabited

namespace Fee

def ofJson? (v : Json) : Option Fee :=
  match v.record? ["amount", "gas_limit", "payer", "granter"] with
  | some [amount, gasLimit, payer, granter] => do
    let amount ← Json.withDefault [] (Json.readList CoinText.ofJson?) amount
    let gasLimit ← Json.withDefault 0 Json.readCount gasLimit
    let payer ← Json.withDefault "" Json.readText payer
    let granter ← Json.withDefault "" Json.readText granter
    return ⟨amount, gasLimit, payer, granter⟩
  | _ => none

end Fee

namespace SignedTx

def signerOfJson? (v : Json) : Option (Option Json) :=
  match v.record? ["public_key"] with
  | some [key] => Json.withDefault none (Json.nullable Json.readValue) key
  | _ => none

def bodyOfJson? (v : Json) : Option (List Json × String) :=
  match v.record? ["messages", "memo"] with
  | some [messages, memo] => do
    let messages ← Json.withDefault [] (Json.readList Json.readValue) messages
    let memo ← Json.withDefault "" Json.readString memo
    return (messages, memo)
  | _ => none

def authOfJson? (v : Json) : Option (List (Option Json) × Fee) :=
  match v.record? ["signer_infos", "fee"] with
  | some [signers, fee] => do
    let signers ← Json.withDefault [] (Json.readList signerOfJson?) signers
    let fee ← Json.withDefault {} Fee.ofJson? fee
    return (signers, fee)
  | _ => none

def ofJson? (v : Json) : Option SignedTx :=
  match v.record? ["body", "auth_info"] with
  | some [body, auth] => do
    let (messages, memo) ← Json.withDefault ([], "") bodyOfJson? body
    let (signers, fee) ← Json.withDefault ([], {}) authOfJson? auth
    return ⟨messages, memo, signers, fee⟩
  | _ => none

end SignedTx

namespace TxResult

def ofJson? (v : Json) : Option TxResult :=
  match v.record? ["height", "txhash", "code", "raw_log", "logs", "events"] with
  | some [height, hash, code, rawLog, logs, events] => do
    let height ← Json.withDefault 0 Json.readCount height
    let hash ← Json.withDefault "" Json.readString hash
    let code ← Json.withDefault 0 Json.readCount code
    let rawLog ← Json.withDefault "" Json.readText rawLog
    let logs ← Json.withDefault [] (Json.readList LogEntry.ofJson?) logs
    let events ← Json.withDefault [] (Json.readList Event.ofJson?) events
    return ⟨height, hash, code, rawLog, logs, events⟩
  | _ => none

end TxResult

/-- The log entries of the messages. Nodes that leave the logs empty tag the events instead. -/
def Transaction.messageLogs (tx : Transaction) : List LogEntry :=
  if tx.result.logs.isEmpty then groupByMessage tx.result.events else tx.result.logs

end TaxLedger
