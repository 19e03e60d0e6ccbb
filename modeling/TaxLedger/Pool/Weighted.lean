import TaxLedger.Pool.Exit
import TaxLedger.Pool.Join
import TaxLedger.Pool.Swap

/-!
# Weighted pools

The messages of weighted pools and, for each, its readers in the order they are tried.
-/

namespace TaxLedger.Pool

open Message

def swapExactInType : String := "/osmosis.gamm.v1beta1.MsgSwapExactAmountIn"

def swapExactOutType : String := "/osmosis.gamm.v1beta1.MsgSwapExactAmountOut"

def joinTokenType : String := "/osmosis.gamm.v1beta1.MsgJoinSwapExternAmountIn"

def joinSharesType : String := "/osmosis.gamm.v1beta1.MsgJoinSwapShareAmountOut"

def joinPoolType : String := "/osmosis.gamm.v1beta1.MsgJoinPool"

def exitSharesType : String := "/osmosis.gamm.v1beta1.MsgExitSwapShareAmountIn"

def exitTokenType : String := "/osmosis.gamm.v1beta1.MsgExitSwapExternAmountOut"

def exitPoolType : String := "/osmosis.gamm.v1beta1.MsgExitPool"

def createPoolType : String := "/osmosis.gamm.v1beta1.MsgCreatePool"

def createBalancerPoolType : String := "/osmosis.gamm.v1beta1.MsgCreateBalancerPool"

def createBalancerModelPoolType : String :=
  "/osmosis.gamm.poolmodels.balancer.v1beta1.MsgCreateBalancerPool"

/-- Message type, name of the reader and reader, in the order they are tried, for messages that give one
coin for one. -/
def swapReaders : List (String × String × SwapReader) := [
  (swapExactInType, "token_swapped", swapInBySwapEvent),
  (swapExactInType, "claim", swapInByClaim),
  (swapExactInType, "transfer", swapInBySecondTransfer),
  (swapExactInType, "last_transfer", swapInByLastTransfer),
  (swapExactOutType, "swap", swapOut),
  (joinTokenType, "coinbase", joinTokenByCoinbase),
  (joinTokenType, "transfer", joinTokenByTransfer),
  (joinSharesType, "coinbase", joinSharesByCoinbase),
  (joinSharesType, "transfer", joinSharesByTransfer)]

def liquidityReaders : List (String × String × Side × LiquidityReader) := [
  (joinPoolType, "join", .deposit, joinPool),
  (exitSharesType, "burn", .withdrawal, exitShares),
  (exitTokenType, "burn", .withdrawal, exitToken),
  (exitPoolType, "pool_exited", .withdrawal, exitPoolByEvent),
  (exitPoolType, "transfer", .withdrawal, exitPoolByTransfer),
  (createPoolType, "coin_events", .deposit, createByCoinEvents),
  (createPoolType, "transfer", .deposit, createByTransfers),
  (createBalancerPoolType, "coin_events", .deposit, createByCoinEvents),
  (createBalancerPoolType, "transfer", .deposit, createByTransfers),
  (createBalancerModelPoolType, "coin_events", .deposit, createByCoinEvents),
  (createBalancerModelPoolType, "transfer", .deposit, createByTransfers)]

def readers : List (String × String × Reader) :=
  swapReaders.map (fun (messageType, name, read) => (messageType, name, swapping read)) ++
  liquidityReaders.map fun (messageType, name, side, read) =>
    (messageType, name, liquidity side read)

/-- The outcome with all coins sent and all coins received. -/
def Outcome.view (messageType readerName : String) (o : Outcome) : Reading where
  description :=
    shortName messageType ++ " (" ++ readerName ++ "): " ++ o.account ++ " sent " ++
      Coin.renderList (o.movements.filterMap (·.sent?)) ++ " and received " ++
      Coin.renderList (o.movements.filterMap (·.received?))
  movements := o.movements

/-- A reader as a decoder; the log has to name the message type. -/
def decoder (messageType readerName : String) (reader : Reader) : Decoder :=
  .make messageType {} (Outcome.view messageType readerName) fun typeUrl message log => do
    let entry ← requireAction typeUrl log
    reader typeUrl message entry

end TaxLedger.Pool
