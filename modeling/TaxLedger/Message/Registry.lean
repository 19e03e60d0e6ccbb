import TaxLedger.Contract.Registry
import TaxLedger.Ibc.Packet
import TaxLedger.Message.Bank
import TaxLedger.Message.Community
import TaxLedger.Message.Reward
import TaxLedger.Message.Supply
import TaxLedger.Pool.Batch
import TaxLedger.Pool.Position
import TaxLedger.Pool.Routed
import TaxLedger.Pool.Weighted

/-!
# Message registry

The decoders of each message type in the order they are tried, and the types that are known to move
nothing.
-/

namespace TaxLedger.Message

/-- Decoders by message type, each in the order of registration, and ignored types. -/
structure Registry where
  decoders : List (String × Decoder) := []
  ignored : List String := []

structure Decoded where
  typeUrl : String
  description : String := ""
  movements : List Movement := []
  deriving DecidableEq, Repr, Inhabited

namespace Registry

def register (r : Registry) (typeUrl : String) (decoder : Decoder) : Registry :=
  { r with decoders := r.decoders ++ [(typeUrl, decoder)] }

def ignore (r : Registry) (typeUrl : String) : Registry :=
  { r with ignored := typeUrl :: r.ignored }

def isIgnored (r : Registry) (typeUrl : String) : Bool := r.ignored.contains typeUrl

def decodersFor (r : Registry) (typeUrl : String) : List Decoder :=
  (r.decoders.filter fun d => d.1 == typeUrl).map (·.2)

/-- The first reading that one of the decoders gives, or the error of the last one; `problem` is the
error of the one before. -/
def firstReading (typeUrl : String) (message : Json) (log : Option LogEntry)
    (problem : DecodeError) : List Decoder → Except DecodeError Reading
  | [] => .error problem
  | d :: rest =>
    match d.read typeUrl message log with
    | .ok reading => .ok reading
    | .error e => firstReading typeUrl message log e rest

/-- Decodes a message: nothing for an ignored type, else the first success of its decoders. -/
def decode (r : Registry) (typeUrl : String) (message : Json) (log : Option LogEntry) :
    Except DecodeError Decoded :=
  if r.isIgnored typeUrl then .ok { typeUrl }
  else
    (firstReading typeUrl message log (.unknownMessageType typeUrl) (r.decodersFor typeUrl)).map
      fun reading => ⟨typeUrl, reading.description, reading.movements⟩

end Registry

/-- Types that are recorded without movements and without a warning. -/
def ignoredTypes : List String := [
  "/cosmos.gov.v1beta1.MsgVote",
  "/cosmos.gov.v1.MsgVote",
  "/cosmos.gov.v1beta1.MsgVoteWeighted",
  "/cosmos.gov.v1.MsgVoteWeighted",
  "/cosmos.authz.v1beta1.MsgGrant",
  "/cosmos.authz.v1beta1.MsgRevoke",
  "/cosmos.feegrant.v1beta1.MsgGrantAllowance",
  "/cosmos.feegrant.v1beta1.MsgRevokeAllowance",
  "/cosmos.distribution.v1beta1.MsgSetWithdrawAddress",
  "/cosmos.slashing.v1beta1.MsgUnjail",
  "/cosmos.staking.v1beta1.MsgCreateValidator",
  "/cosmos.staking.v1beta1.MsgEditValidator",
  "/ibc.core.client.v1.MsgUpdateClient",
  "/ibc.core.client.v1.MsgCreateClient",
  "/ibc.core.channel.v1.MsgTimeout",
  "/ibc.core.channel.v1.MsgTimeoutOnClose",
  "/ibc.core.channel.v1.MsgChannelOpenInit",
  "/ibc.core.channel.v1.MsgChannelOpenTry",
  "/ibc.core.channel.v1.MsgChannelOpenAck",
  "/ibc.core.channel.v1.MsgChannelOpenConfirm",
  "/ibc.core.connection.v1.MsgConnectionOpenInit",
  "/ibc.core.connection.v1.MsgConnectionOpenTry",
  "/ibc.core.connection.v1.MsgConnectionOpenAck",
  "/ibc.core.connection.v1.MsgConnectionOpenConfirm",
  "/osmosis.superfluid.MsgSuperfluidDelegate",
  "/osmosis.superfluid.MsgSuperfluidUndelegate",
  "/osmosis.superfluid.MsgSuperfluidUnbondLock",
  "/osmosis.superfluid.MsgLockAndSuperfluidDelegate",
  "/osmosis.superfluid.MsgUnPoolWhitelistedPool",
  "/osmosis.superfluid.MsgUnlockAndMigrateSharesToFullRangeConcentratedPosition",
  "/osmosis.lockup.MsgLockTokens",
  "/osmosis.lockup.MsgBeginUnlocking",
  "/osmosis.lockup.MsgBeginUnlockingAll",
  "/osmosis.valsetpref.v1beta1.MsgSetValidatorSetPreference",
  "/osmosis.tokenfactory.v1beta1.MsgCreateDenom",
  "/osmosis.tokenfactory.v1beta1.MsgSetDenomMetadata",
  "/osmosis.tokenfactory.v1beta1.MsgSetBeforeSendHook",
  "/osmosis.tokenfactory.v1beta1.MsgChangeAdmin",
  "/cosmwasm.wasm.v1.MsgInstantiateContract",
  "/cosmwasm.wasm.v1.MsgInstantiateContract2",
  "/cosmwasm.wasm.v1.MsgStoreCode",
  "/cosmwasm.wasm.v1.MsgMigrateContract",
  "/cosmwasm.wasm.v1.MsgUpdateAdmin",
  "/cosmwasm.wasm.v1.MsgClearAdmin",
  "/cosmwasm.wasm.v1.MsgUpdateInstantiateConfig",
  "/cosmwasm.wasm.v1.MsgSudoContract",
  "/cosmwasm.wasm.v1.MsgPinCodes",
  "/cosmwasm.wasm.v1.MsgUnpinCodes"]

def knownDecoders (contracts : Contract.Registry) : List Decoder :=
  [Send.decoder, MultiSend.decoder, Withdrawal.decoder withdrawRewardType,
    Withdrawal.decoder withdrawCommissionType, CommunityGift.decoder] ++
  [submitProposalType, submitProposalV1Type, depositType, depositV1Type].map
    ProposalDeposit.decoder ++
  [delegateType, undelegateType, redelegateType].map Delegation.decoder ++
  [Ibc.Outgoing.decoder, Ibc.Incoming.decoder, Ibc.Refund.decoder] ++
  [Supply.decoder .mint, Supply.decoder .burn] ++
  Pool.readers.map (fun (messageType, name, reader) => Pool.decoder messageType name reader) ++
  Pool.Routed.readers.map (fun (messageType, reader) => Pool.Routed.decoder messageType reader) ++
  Pool.Position.kinds.map
    (fun (messageType, direction, source) => Pool.Position.decoder messageType direction source) ++
  ValidatorSet.messageTypes.map ValidatorSet.decoder ++
  Pool.Batch.requests.map Pool.Batch.decoder ++
  [Contract.decoder contracts]

def Registry.standard (contracts : Contract.Registry) : Registry where
  decoders := (knownDecoders contracts).map fun d => (d.messageType, d)
  ignored := ignoredTypes

end TaxLedger.Message
