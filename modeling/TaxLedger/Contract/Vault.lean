import TaxLedger.Contract.Execution

/-!
# Cost averaging vaults

Contracts that buy a coin bit by bit. Their executions are known, and none of them moves coins of the
account that executes them.
-/

namespace TaxLedger.Contract.Vault

def codeId : Nat := 575

def friendlyName : String := "Calcfi DCA - 575"

def handlerName : String := "calcfi-dca"

def variants : List String :=
  ["create_vault", "deposit", "update_vault", "cancel_vault", "execute_trigger", "update_config",
    "update_swap_adjustment", "disburse_escrow", "z_delegate", "receive"]

def triggerIdOfJson? (v : Json) : Option String :=
  match v.record? ["trigger_id"] with
  | some [id] => Json.required Json.readIdentifier id
  | _ => none

structure Understood where
  contract : String := ""
  execution : String := ""
  deriving DecidableEq, Repr, Inhabited

/-- A trigger needs an identifier; of any other execution only the variants are told. -/
def understand (x : Execution) : Except DecodeError Understood := do
  match (x.payload.get? "execute_trigger").filter fun v => !v.isNull with
  | some trigger =>
    let id ← Message.body triggerIdOfJson? trigger
    if id = "" then throw (.logFormat friendlyName "execute_trigger without trigger_id")
    else return ⟨x.contract, "execute_trigger"⟩
  | none =>
    let unsupported := x.presentNames.filter fun name => variants.contains name
    return ⟨x.contract, "unsupported fields: [" ++ String.intercalate " " unsupported ++ "]"⟩

def view (u : Understood) : Reading where
  description :=
    "MsgExecuteContract: Contract " ++ u.contract ++ " execution parsed as " ++ friendlyName ++
      " with execution parser " ++ u.execution
  movements := []

def read : Reader := fun x _ => (understand x).map view

def handler : Handler := ⟨friendlyName, variants, [read]⟩

end TaxLedger.Contract.Vault
