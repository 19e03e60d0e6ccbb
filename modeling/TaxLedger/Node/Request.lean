import TaxLedger.Json.Parse
import TaxLedger.Node.Error
import TaxLedger.Work

/-!
# Requests to a node

A request goes to one of the two services of a node. What comes back is a reply with a status, or
nothing at all; a reply counts only with a status of success and a body of the right form.
-/

namespace TaxLedger

inductive Service where
  /-- Remote procedures: the state of the node and the results of blocks. -/
  | procedures
  /-- Resources: blocks, transactions and what the modules of the chain hold. -/
  | resources
  deriving DecidableEq, Repr, Inhabited

structure Request where
  service : Service
  path : String
  query : List (String × String) := []
  deriving DecidableEq, Repr, Inhabited

inductive Reply where
  /-- The connection broke off. -/
  | dropped
  | answered (status : Nat) (body : String)
  deriving DecidableEq, Repr, Inhabited

/-- A node as it is seen from here: the addresses of its services and what it makes of a request. -/
structure Node (σ : Type) where
  procedures : String
  resources : String
  ask : Request → σ → Reply × σ

namespace Reply

def hasBody (status : Nat) : Bool := status != 204 && status != 304

/-- The text of a body; a byte order mark at its start is not a part of it. -/
def bodyText (body : String) : String :=
  match body.toList with
  | '\ufeff' :: rest => String.ofList rest
  | _ => body

def read {α : Type} (url : String) (value? : Json → Option α) : Reply → Except NodeError α
  | .dropped => .error (.unreachable url)
  | .answered status body =>
    let text := if hasBody status then bodyText body else ""
    if 200 ≤ status && status < 300 then
      match (Json.parse? text).bind value? with
      | some value => .ok value
      | none => .error (.malformed url none)
    else .error (.status url status text)

end Reply

namespace Node

variable {σ α : Type}

def url (node : Node σ) (service : Service) (path : String) : String :=
  match service with
  | .procedures => node.procedures ++ path
  | .resources => node.resources ++ path

def get (node : Node σ) (value? : Json → Option α) (request : Request) : Work σ NodeError α :=
  Work.ofFunction fun s =>
    let (reply, s) := node.ask request s
    (reply.read (node.url request.service request.path) value?, s)

end Node

end TaxLedger
