import TaxLedger.Address.FeePayer
import TaxLedger.Failure
import TaxLedger.Message.Registry
import TaxLedger.Node.Answer

/-!
# Block records

What a block holds once its transactions are decoded. A message that cannot be decoded stays in the
record without movements and leaves a notice; it never spoils its block. Only a transaction with more
messages than there are indices does.
-/

namespace TaxLedger.Block

structure FeeRecord where
  payer : String
  coin : Coin
  deriving DecidableEq, Repr, Inhabited

structure MessageRecord where
  index : Int
  typeUrl : String
  movements : List Movement := []
  deriving DecidableEq, Repr, Inhabited

structure TxRecord where
  hash : String
  code : Int
  signer : Option String := none
  fees : List FeeRecord := []
  messages : List MessageRecord := []
  deriving DecidableEq, Repr, Inhabited

structure Record where
  height : Int
  time : Timestamp
  txs : List TxRecord := []
  deriving DecidableEq, Repr, Inhabited

/-- Something about a transaction that a person may want to look into. -/
inductive Notice where
  /-- The key of the signer gives no account. -/
  | noSigner (problem : AddressError)
  /-- The amount of a fee cannot be read. -/
  | skippedFee (problem : DecodeError)
  /-- Nobody is known to pay a fee. -/
  | feeWithoutPayer (coin : Coin)
  /-- A message cannot be decoded. -/
  | undecoded (index : Nat) (typeUrl : String) (problem : DecodeError)
  deriving DecidableEq, Repr, Inhabited

/-- The text of a notice about the transaction `hash` in the block at `height`; a missing signer is
not tied to a block. -/
def Notice.text (height : Int) (hash : String) : Notice → String
  | .noSigner problem =>
    "[Tx: " ++ hash ++ "] Could not derive signer address: " ++ problem.message
  | .skippedFee problem => place ++ "Skipping fee: " ++ problem.message
  | .feeWithoutPayer coin => place ++ "Fee " ++ coin.render ++ " has no payer, skipping"
  | .undecoded index typeUrl problem =>
    match problem with
    | .contractPayloadEmpty .. => place ++ problem.message
    | _ =>
      place ++ "Could not decode message " ++ toString index ++ " (" ++ typeUrl ++ "): " ++
        problem.message
where
  place := "[Block: " ++ toString height ++ "] [Tx: " ++ hash ++ "] "

def readFee (payer : Option String) (coin : CoinText) : Except Notice FeeRecord :=
  match coin.toCoin, payer with
  | .error problem, _ => .error (.skippedFee problem)
  | .ok coin, none => .error (.feeWithoutPayer coin)
  | .ok coin, some payer => .ok ⟨payer, coin⟩

def messageType (message : Json) : String := ((message.get? "@type").bind Json.asString?).getD ""

/-- The record of a message, and a notice if it could not be decoded although its type is known. -/
def readMessage (registry : Message.Registry) (logs : List LogEntry) (index : Nat)
    (message : Json) : MessageRecord × Option Notice :=
  let typeUrl := messageType message
  match registry.decode typeUrl message (LogEntry.forMessage? logs index) with
  | .ok decoded => (⟨index, typeUrl, decoded.movements⟩, none)
  | .error (.unknownMessageType _) => (⟨index, typeUrl, []⟩, none)
  | .error problem => (⟨index, typeUrl, []⟩, some (.undecoded index typeUrl problem))

/-- The failure of a transaction that has more messages than there are indices. -/
def tooManyMessages : Failure :=
  ⟨["Message index out of range"], .other "out of range integral type conversion attempted"⟩

/-- The records of messages from `index` on, and notices of those that could not be decoded. An index
has to fit in 32 bits. -/
def readMessages (registry : Message.Registry) (logs : List LogEntry) :
    (index : Nat) → List Json → Except Failure (List MessageRecord) × List Notice
  | _, [] => (.ok [], [])
  | index, message :: rest =>
    let (record, notice) := readMessage registry logs index message
    if int32Max < index then (.error tooManyMessages, notice.toList)
    else
      let (records, notices) := readMessages registry logs (index + 1) rest
      (records.map (record :: ·), notice.toList ++ notices)

def problems {α : Type} (results : List (Except Notice α)) : List Notice :=
  results.filterMap fun
    | .error n => some n
    | .ok _ => none

def values {α : Type} (results : List (Except Notice α)) : List α :=
  results.filterMap fun
    | .ok v => some v
    | .error _ => none

/-- The record of a transaction and its notices. A transaction that failed has no messages. -/
def readTx (registry : Message.Registry) (readable : String) (tx : Transaction) :
    Except Failure TxRecord × List Notice :=
  let (payer, noSigner) : Option String × List Notice :=
    match tx.feePayer readable with
    | .ok payer => (payer, [])
    | .error problem => (none, [.noSigner problem])
  let fees := tx.signed.fee.amount.map (readFee payer)
  let (messages, undecoded) :=
    if tx.result.code = 0 then readMessages registry tx.messageLogs 0 tx.signed.messages
    else (.ok [], [])
  (messages.map fun messages => ⟨tx.result.hash, tx.result.code, payer, values fees, messages⟩,
    noSigner ++ problems fees ++ undecoded)

/-- The records of transactions up to the first that fails, and for each of them its notices. -/
def readTxs (registry : Message.Registry) (readable : String) :
    List Transaction → Except Failure (List TxRecord) × List (String × List Notice)
  | [] => (.ok [], [])
  | tx :: rest =>
    match readTx registry readable tx with
    | (.error failure, notices) => (.error failure, [(tx.result.hash, notices)])
    | (.ok record, notices) =>
      let (records, more) := readTxs registry readable rest
      (records.map (record :: ·), (tx.result.hash, notices) :: more)

def read (registry : Message.Registry) (readable : String) (header : BlockHeader)
    (txs : List Transaction) : Except Failure Record × List (String × List Notice) :=
  let (records, notices) := readTxs registry readable txs
  (records.map fun records => ⟨header.height, header.time, records⟩, notices)

end TaxLedger.Block
