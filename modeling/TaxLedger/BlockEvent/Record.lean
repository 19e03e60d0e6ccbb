import TaxLedger.Bytes.Hex
import TaxLedger.Bytes.Utf8
import TaxLedger.Coin
import TaxLedger.Digest.Sha256

/-!
# Block event records

Coins that an account gets or gives at the beginning or end of a block, outside any transaction.
-/

namespace TaxLedger.BlockEvent

inductive Source where
  | rewardDistribution
  | depositedCoins
  | depositShares
  | swapGiven
  | swapGotten
  | withdrawalShares
  | withdrawnCoins
  deriving DecidableEq, Repr, Inhabited

namespace Source

def all : List Source :=
  [.rewardDistribution, .depositedCoins, .depositShares, .swapGiven, .swapGotten,
    .withdrawalShares, .withdrawnCoins]

/-- The number that stands for a source in the store. -/
def code : Source → Nat
  | .rewardDistribution => 0
  | .depositedCoins => 1
  | .depositShares => 2
  | .swapGiven => 3
  | .swapGotten => 4
  | .withdrawalShares => 5
  | .withdrawnCoins => 6

def ofCode? (n : Int) : Option Source := all.find? fun s => (s.code : Int) == n

def label : Source → String
  | .rewardDistribution => "OsmosisRewardDistribution"
  | .depositedCoins => "LiquidityDepositCoinsToPool"
  | .depositShares => "LiquidityDepositPoolCoinReceived"
  | .swapGiven => "LiquiditySwapCoinSent"
  | .swapGotten => "LiquiditySwapCoinReceived"
  | .withdrawalShares => "LiquidityWithdrawPoolCoinSent"
  | .withdrawnCoins => "LiquidityWithdrawCoinsReceived"

def isOutflow : Source → Bool
  | .depositedCoins | .swapGiven | .withdrawalShares => true
  | _ => false

end Source

structure Record where
  source : Source
  account : String
  coin : Coin
  deriving DecidableEq, Repr, Inhabited

/-- The text whose digest names a record: account, height, amount, denomination and source, without
separators. -/
def preimageOf (source : Source) (account amount denom : String) (height : Int) : String :=
  account ++ toString height ++ amount ++ denom ++ toString source.code

def digestName (text : String) : String := Hex.encode (Sha256.digest (Utf8.encode text))

def Record.preimage (r : Record) (height : Int) : String :=
  preimageOf r.source r.account r.coin.amount.render r.coin.denom height

/-- The name that keeps a record from being stored twice. -/
def Record.hash (r : Record) (height : Int) : String := digestName (r.preimage height)

end TaxLedger.BlockEvent
