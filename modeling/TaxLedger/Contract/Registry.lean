import TaxLedger.Contract.Vault

/-!
# Contract registry

Which handler is in charge of which contract. Handlers are bound to codes, and through the list of a
code's contracts to addresses.
-/

namespace TaxLedger.Contract

open Message

def knownHandler? (name : String) : Option Handler :=
  if name = Vault.handlerName then some Vault.handler else none

/-- Handlers by code and by address. Codes are sorted, and no code or address stands twice. -/
structure Registry where
  codes : List (Nat × Handler) := []
  addresses : List (String × Handler) := []

namespace Registry

/-- Binds a key in a list that is sorted by key; a binding of that key is replaced. -/
def bindKey {α : Type} (key : Nat) (value : α) : List (Nat × α) → List (Nat × α)
  | [] => [(key, value)]
  | (k, v) :: rest =>
    if key < k then (key, value) :: (k, v) :: rest
    else if key = k then (key, value) :: rest
    else (k, v) :: bindKey key value rest

def bindAddress (address : String) (handler : Handler) :
    List (String × Handler) → List (String × Handler)
  | [] => [(address, handler)]
  | (a, h) :: rest =>
    if a = address then (a, handler) :: rest else (a, h) :: bindAddress address handler rest

def registerCode (r : Registry) (code : Nat) (handler : Handler) : Registry :=
  { r with codes := bindKey code handler r.codes }

def builtin : Registry := ({} : Registry).registerCode Vault.codeId Vault.handler

def codeIds (r : Registry) : List Nat := r.codes.map (·.1)

/-- Binds the contracts of a code to the code's handler, and tells how many there are; a code without
a handler binds none. -/
def bindContracts (r : Registry) (code : Nat) (contracts : List String) : Registry × Nat :=
  match r.codes.lookup code with
  | none => (r, 0)
  | some handler =>
    ({ r with addresses := contracts.foldl (fun as a => bindAddress a handler as) r.addresses },
      contracts.length)

def handlerFor? (r : Registry) (contract : String) : Option Handler := r.addresses.lookup contract

def addressCount (r : Registry) : Nat := r.addresses.length

end Registry

def executeType : String := "/cosmwasm.wasm.v1.MsgExecuteContract"

def unhandled (contract : String) : Reading :=
  ⟨"MsgExecuteContract: No handler found for contract address " ++ contract, []⟩

def firstReading? (x : Execution) (log : Option LogEntry) : List Reader → Option Reading
  | [] => none
  | r :: rest =>
    match r x log with
    | .ok reading => some reading
    | .error _ => firstReading? x log rest

/-- Reads an execution with the contract's handler. The payload has to hold one of the handler's
variants. -/
def read (contracts : Registry) (typeUrl : String) (message : Json) (log : Option LogEntry) :
    Except DecodeError Reading := do
  let x ← Execution.ofMessage message
  match contracts.handlerFor? x.contract with
  | none => return unhandled x.contract
  | some handler =>
    if !x.presentNames.any fun name => handler.variants.contains name then
      throw (.contractPayloadEmpty x.contract x.names)
    else
      match firstReading? x log handler.readers with
      | some reading => return reading
      | none =>
        throw (.logFormat typeUrl
          ("no parser succeeded for contract " ++ x.contract ++ " using handler " ++
            handler.friendlyName))

def decoder (contracts : Registry) : Decoder where
  messageType := executeType
  blank := unhandled ""
  read := read contracts

end TaxLedger.Contract
