import TaxLedger.Json.Record
import TaxLedger.Node.Request

/-!
# A node that answers from a script

For a rehearsal without a chain: the script holds the replies to each request, by a key that tells what
is asked for, and the last reply to a request is given again and again.
-/

namespace TaxLedger.Rehearsal

/-- The replies left for each key, the requests so far, and the key at whose request a stop is asked
for. -/
structure ScriptedNode where
  routes : List (String × List Reply) := []
  requests : List Request := []
  stopAt : Option String := none
  stopped : Bool := false
  deriving Inhabited

def routeKey (request : Request) : String :=
  let value (name : String) := (request.query.lookup name).getD ""
  match (request.path.splitOn "/").drop 1 with
  | ["status"] => "status"
  | ["block_results"] => "block_results/" ++ value "height"
  | ["cosmos", "base", "tendermint", "v1beta1", "blocks", height] => "block/" ++ height
  | ["cosmos", "tx", "v1beta1", "txs"] =>
    "txs/" ++ (value "events").replace "tx.height=" "" ++ "/" ++ value "pagination.offset"
  | ["cosmwasm", "wasm", "v1", "code", codeId, "contracts"] =>
    "contracts/" ++ codeId ++ "/" ++ value "pagination.key"
  | ["osmosis", "epochs", "v1beta1", "epochs"] => "epochs"
  | _ => request.path

def unknownRoute : Reply := .answered 404 "not found"

/-- A reply in JSON: a connection that breaks off, or a status with a body that is a value or a text. -/
def replyOfJson (v : Json) : Reply :=
  match v.get? "drop" with
  | some (.bool true) => .dropped
  | _ =>
    let status := (((v.get? "status").bind Json.readInt64).getD 200).toNat
    match v.get? "json" with
    | some body => .answered status body.render
    | none => .answered status (((v.get? "text").bind Json.asString?).getD "")

namespace ScriptedNode

def ofJson (routes : Json) : ScriptedNode where
  routes := (routes.asObject?.getD []).map fun (key, replies) =>
    (key, (replies.asArray?.getD []).map replyOfJson)

def ask (request : Request) (n : ScriptedNode) : Reply × ScriptedNode :=
  let key := routeKey request
  let n := { n with
    requests := n.requests ++ [request]
    stopped := n.stopped || n.stopAt == some key }
  match n.routes.lookup key with
  | none | some [] => (unknownRoute, n)
  | some [last] => (last, n)
  | some (next :: rest) =>
    (next, { n with
      routes := n.routes.map fun (k, replies) => (k, if k == key then rest else replies) })

end ScriptedNode

end TaxLedger.Rehearsal
