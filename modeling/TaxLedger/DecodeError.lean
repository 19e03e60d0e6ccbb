import TaxLedger.Text.Quoted

/-!
# Decode errors

Why a message or an event gives no movements.
-/

namespace TaxLedger

inductive DecodeError where
  /-- No decoder is registered for the type. -/
  | unknownMessageType (typeUrl : String)
  /-- The event log does not have the form that the message type calls for. -/
  | logFormat (messageType reason : String)
  /-- A contract's payload has none of the variants that its decoder knows. -/
  | contractPayloadEmpty (contract : String) (keys : List String)
  /-- A text is not an amount, or not an amount with a denomination. -/
  | invalidCoin (text : String)
  /-- A message body or a text is not the JSON it should be. -/
  | json
  /-- A text is not base64. -/
  | base64
  deriving DecidableEq, Repr, Inhabited

namespace DecodeError

def message : DecodeError → String
  | .unknownMessageType typeUrl => "no decoder registered for message type " ++ typeUrl
  | .logFormat messageType reason => "log format error for " ++ messageType ++ ": " ++ reason
  | .contractPayloadEmpty contract keys =>
    "contract " ++ contract ++ " payload has no known variant, top-level keys: " ++
      Text.quotedList keys
  | .invalidCoin text => "invalid coin " ++ Text.quoted text
  | .json => "json"
  | .base64 => "base64"

end DecodeError

end TaxLedger
