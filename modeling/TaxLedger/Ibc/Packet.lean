import TaxLedger.Bytes.Base64
import TaxLedger.Ibc.Denom
import TaxLedger.Message.Decoder

/-!
# Transfers across chains

Coins that leave for another chain, arrive from one, or come back because the other chain refused
them.
-/

namespace TaxLedger.Ibc

open Message

def transferType : String := "/ibc.applications.transfer.v1.MsgTransfer"

def recvPacketType : String := "/ibc.core.channel.v1.MsgRecvPacket"

def acknowledgementType : String := "/ibc.core.channel.v1.MsgAcknowledgement"

structure Packet where
  route : Route := {}
  data : String := ""
  deriving DecidableEq, Repr, Inhabited

structure TokenData where
  denom : String := ""
  amount : String := ""
  sender : String := ""
  receiver : String := ""
  deriving DecidableEq, Repr, Inhabited

namespace Packet

def ofJson? (v : Json) : Option Packet :=
  match v.record?
      ["source_port", "source_channel", "destination_port", "destination_channel", "data"] with
  | some [sourcePort, sourceChannel, destinationPort, destinationChannel, data] => do
    let sourcePort ← Json.withDefault "" Json.readString sourcePort
    let sourceChannel ← Json.withDefault "" Json.readString sourceChannel
    let destinationPort ← Json.withDefault "" Json.readString destinationPort
    let destinationChannel ← Json.withDefault "" Json.readString destinationChannel
    let data ← Json.withDefault "" Json.readString data
    return ⟨⟨sourcePort, sourceChannel, destinationPort, destinationChannel⟩, data⟩
  | _ => none

end Packet

namespace TokenData

def ofJson? (v : Json) : Option TokenData :=
  match v.record? ["denom", "amount", "sender", "receiver"] with
  | some [denom, amount, sender, receiver] => do
    let denom ← Json.withDefault "" Json.readString denom
    let amount ← Json.withDefault "" Json.readString amount
    let sender ← Json.withDefault "" Json.readString sender
    let receiver ← Json.withDefault "" Json.readString receiver
    return ⟨denom, amount, sender, receiver⟩
  | _ => none

end TokenData

def parseEncoded (text : String) : Except DecodeError Json :=
  match Base64.decode? (Text.trim text) with
  | none => .error .base64
  | some bytes =>
    match Utf8.parseJson? bytes with
    | none => .error .json
    | some v => .ok v

def Packet.tokenData (p : Packet) : Except DecodeError TokenData := do
  let v ← parseEncoded p.data
  body TokenData.ofJson? v

structure Outgoing where
  sender : String := ""
  receiver : String := ""
  token : Option Coin := none
  deriving DecidableEq, Repr, Inhabited

namespace Outgoing

def bodyOfJson? (v : Json) : Option (String × String × Option CoinText) :=
  match v.recordWith? 3 ["sender", "receiver", "token"] with
  | some [sender, receiver, token] => do
    let sender ← Json.required Json.readString sender
    let receiver ← Json.required Json.readString receiver
    let token ← Json.withDefault none (Json.nullable CoinText.ofJson?) token
    return (sender, receiver, token)
  | _ => none

def read (typeUrl : String) (message : Json) (log : Option LogEntry) :
    Except DecodeError Outgoing := do
  let _ ← requireAction typeUrl log
  let (sender, receiver, token) ← body bodyOfJson? message
  let token ← token.mapM CoinText.toCoin
  return ⟨sender, receiver, token⟩

def view (t : Outgoing) : Reading where
  description :=
    match t.token with
    | some coin =>
      "MsgTransfer: IBC transfer of " ++ coin.render ++ " from " ++ t.sender ++ " to " ++ t.receiver
    | none =>
      "MsgTransfer: IBC transfer from " ++ t.sender ++ " to " ++ t.receiver ++
        " did not include an amount"
  movements := t.token.toList.map (Movement.transfer t.sender t.receiver)

def decoder : Decoder := .make transferType {} view read

end Outgoing

structure Incoming where
  sender : String := ""
  receiver : String := ""
  token : Option Coin := none
  deriving DecidableEq, Repr, Inhabited

namespace Incoming

def packetOfJson? (v : Json) : Option Packet :=
  match v.record? ["packet"] with
  | some [packet] => Json.required Packet.ofJson? packet
  | _ => none

/-- Only a packet whose `fungible_token_packet` event reports success brings a coin. -/
def read (typeUrl : String) (message : Json) (log : Option LogEntry) :
    Except DecodeError Incoming := do
  let entry ← requireLog typeUrl log
  let packet ← body packetOfJson? message
  match entry.firstOfKind? "fungible_token_packet" with
  | none => return {}
  | some event =>
    if event.first "success" != "true" then return {}
    let data ← packet.tokenData
    let amount ← Coin.parseAmount data.amount
    return ⟨data.sender, data.receiver, some ⟨amount, receivedDenom packet.route data.denom⟩⟩

def view (t : Incoming) : Reading where
  description :=
    match t.token with
    | some coin =>
      "MsgRecvPacket: " ++ t.receiver ++ " received " ++ coin.render ++ " from " ++ t.sender
    | none => "MsgRecvPacket: no fungible token received"
  movements := t.token.toList.map fun coin =>
    { Movement.receipt t.receiver coin with sender := t.sender }

def decoder : Decoder := .make recvPacketType {} view read

end Incoming

/-- A coin that comes back to the account that sent it. -/
structure Refund where
  account : String := ""
  coin : Option Coin := none
  deriving DecidableEq, Repr, Inhabited

namespace Refund

def bodyOfJson? (v : Json) : Option (Packet × String) :=
  match v.record? ["packet", "acknowledgement"] with
  | some [packet, acknowledgement] => do
    let packet ← Json.required Packet.ofJson? packet
    let acknowledgement ← Json.withDefault "" Json.readString acknowledgement
    return (packet, acknowledgement)
  | _ => none

/-- Whether an acknowledgement tells an error. An empty one tells none. -/
def isError (acknowledgement : String) : Except DecodeError Bool :=
  if acknowledgement = "" then .ok false
  else do
    let document ← parseEncoded acknowledgement
    let value ← body Json.readValue document
    return (value.get? "error").isSome

def read (typeUrl : String) (message : Json) (log : Option LogEntry) :
    Except DecodeError Refund := do
  let _ ← requireLog typeUrl log
  let (packet, acknowledgement) ← body bodyOfJson? message
  if packet.data = "" then return {}
  if !(← isError acknowledgement) then return {}
  let data ← packet.tokenData
  let amount ← Coin.parseAmount data.amount
  return ⟨data.sender, some ⟨amount, localDenom data.denom⟩⟩

def view (t : Refund) : Reading where
  description :=
    match t.coin with
    | some coin => "MsgAcknowledgement: " ++ t.account ++ " refunded " ++ coin.render
    | none => "MsgAcknowledgement: packet acknowledged"
  movements := t.coin.toList.map (Movement.receipt t.account)

def decoder : Decoder := .make acknowledgementType {} view read

end Refund

end TaxLedger.Ibc
