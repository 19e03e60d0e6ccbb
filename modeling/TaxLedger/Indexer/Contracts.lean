import TaxLedger.Config.Basic
import TaxLedger.Contract.Registry
import TaxLedger.Log
import TaxLedger.Retry

/-!
# Contracts at the start

Before anything is indexed, the contracts of every code with a handler are listed and bound to the
handler. A code whose contracts the node does not list has none; a node that is in trouble to the end
of the budget is a failure.
-/

namespace TaxLedger.Indexer

open Contract (Registry)

variable {σ : Type}

def configuredCodes (codes : List (Nat × String)) : Except Failure Registry :=
  codes.foldlM
    (fun r (code, name) =>
      match Contract.knownHandler? name with
      | some handler => .ok (r.registerCode code handler)
      | none => .error (.ofText ("Unknown contract handler " ++ name)))
    Registry.builtin

/-- How contracts are listed: the budget for each code, what lists the contracts of a code, and who is
told. -/
structure Listing (σ : Type) where
  budget : Backoff
  patience : Nat
  list : Nat → Work σ NodeError (List String)
  tell : LogLine → σ → σ

namespace Listing

def bindCode (l : Listing σ) (r : Registry) (code : Nat) : Work σ Failure Registry := do
  match ← (l.budget.run l.patience (l.list code)).outcome with
  | .ok contracts =>
    let (r, bound) := r.bindContracts code contracts
    Work.change (l.tell ⟨.info, "Bound " ++ toString bound ++
      " contracts instantiated from code id " ++ toString code⟩)
    return r
  | .error e =>
    if e.isTransient then
      throw ⟨["Failed to list contracts for code id " ++ toString code], .node e⟩
    Work.change (l.tell ⟨.warn, "Could not list contracts for code id " ++ toString code ++ ": " ++
      e.message⟩)
    return r

def bindAll (l : Listing σ) (r : Registry) : Work σ Failure Registry := do
  let r ← r.codeIds.foldlM l.bindCode r
  Work.change (l.tell ⟨.info, "Contract registry ready with " ++ toString r.addressCount ++
    " addresses"⟩)
  return r

end Listing

/-- The registry for a configuration. Contracts are listed only if transactions are indexed. -/
def buildContracts (c : Config) (l : Listing σ) : Work σ Failure Registry := do
  let r ← Work.ofResult (configuredCodes c.contractCodeIds)
  if c.base.indexChain then l.bindAll r else return r

end TaxLedger.Indexer
