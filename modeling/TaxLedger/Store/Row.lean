import TaxLedger.Decimal
import TaxLedger.Time.Basic

/-!
# Rows

The rows of the store. A row refers to others by their numbers.
-/

namespace TaxLedger.Store

structure Numbered (α : Type) where
  id : Nat
  row : α
  deriving Repr, Inhabited

structure ChainRow where
  chainId : String
  name : String
  deriving DecidableEq, Repr, Inhabited

/-- A block, and whether its transactions and events are kept. -/
structure BlockRow where
  chain : Nat
  height : Int
  time : Timestamp
  hasTxs : Bool := false
  hasEvents : Bool := false
  deriving DecidableEq, Repr, Inhabited

structure FailedBlockRow where
  chain : Nat
  height : Int
  deriving DecidableEq, Repr, Inhabited

structure AddressRow where
  address : String
  deriving DecidableEq, Repr, Inhabited

structure DenomRow where
  base : String
  name : Option String := none
  symbol : Option String := none
  deriving DecidableEq, Repr, Inhabited

structure UnitRow where
  denom : Nat
  exponent : Int
  name : String
  deriving DecidableEq, Repr, Inhabited

structure AliasRow where
  unit : Nat
  name : String
  deriving DecidableEq, Repr, Inhabited

structure TxRow where
  hash : String
  code : Int
  block : Nat
  signer : Option Nat := none
  deriving DecidableEq, Repr, Inhabited

structure FeeRow where
  tx : Nat
  amount : Decimal
  denom : Nat
  payer : Nat
  deriving DecidableEq, Repr, Inhabited

structure MessageTypeRow where
  typeUrl : String
  deriving DecidableEq, Repr, Inhabited

structure MessageRow where
  tx : Nat
  messageType : Nat
  index : Int
  deriving DecidableEq, Repr, Inhabited

structure MovementRow where
  message : Nat
  amountSent : Decimal
  amountReceived : Decimal
  denomSent : Option Nat := none
  denomReceived : Option Nat := none
  sender : Option Nat := none
  receiver : Option Nat := none
  deriving DecidableEq, Repr, Inhabited

structure EventRow where
  /-- The code of the event's source. -/
  source : Int
  amount : Decimal
  denom : Nat
  address : Nat
  hash : String
  block : Nat
  deriving DecidableEq, Repr, Inhabited

structure EpochRow where
  chain : Nat
  identifier : String
  number : Int
  startHeight : Int
  hasEvents : Bool := false
  deriving DecidableEq, Repr, Inhabited

end TaxLedger.Store
