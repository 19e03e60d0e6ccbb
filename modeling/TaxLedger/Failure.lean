import TaxLedger.Denom.Convert
import TaxLedger.DecodeError
import TaxLedger.Node.Error
import TaxLedger.Store.Error

/-!
# Failures

A failure of the indexer is a cause and what was being done when it struck. Its category follows from
the cause alone.
-/

namespace TaxLedger

inductive Cause where
  | node (e : NodeError)
  | decode (e : DecodeError)
  | denom (e : Denom.NotFound)
  /-- A setting that makes no sense. -/
  | config (reason : String)
  | store (e : StoreError)
  | other (text : String)
  /-- The program breaks off where it comes to a limit of the machine. -/
  | crash (text : String)
  deriving DecidableEq, Repr

namespace Cause

def message : Cause → String
  | .node e => e.message
  | .decode e => e.message
  | .denom e => e.message
  | .config reason => "invalid configuration: " ++ reason
  | .store e => e.message
  | .other text => text
  | .crash text => text

end Cause

inductive FailureCategory where
  | transientNode
  | node
  | decodeFormat
  | storeConflict
  | store
  | fatalConfig
  | other
  deriving DecidableEq, Repr, Inhabited

namespace FailureCategory

def word : FailureCategory → String
  | .transientNode => "TransientRPC"
  | .node => "RPC"
  | .decodeFormat => "DecodeFormat"
  | .storeConflict => "StoreConflict"
  | .store => "Store"
  | .fatalConfig => "FatalConfig"
  | .other => "Other"

end FailureCategory

/-- A cause below what was being done, the outermost first. -/
structure Failure where
  contexts : List String := []
  cause : Cause
  deriving DecidableEq, Repr

namespace Failure

def ofText (text : String) : Failure := ⟨[], .other text⟩

/-- The same failure while doing `text`. -/
def within (text : String) (f : Failure) : Failure := { f with contexts := text :: f.contexts }

/-- What was being done, or the cause where nothing is known about that. -/
def headline (f : Failure) : String := f.contexts.headD f.cause.message

/-- The whole story, from the outermost context down to the cause. -/
def text (f : Failure) : String := String.intercalate ": " (f.contexts ++ [f.cause.message])

def category (f : Failure) : FailureCategory :=
  match f.cause with
  | .node e => if e.isTransient then .transientNode else .node
  | .decode _ => .decodeFormat
  | .denom _ => .other
  | .config _ => .fatalConfig
  | .store (.duplicate _) => .storeConflict
  | .store _ => .store
  | .other _ => .other
  | .crash _ => .other

/-- Whether the program breaks off, instead of ending with the failure. -/
def isCrash (f : Failure) : Bool :=
  match f.cause with
  | .crash _ => true
  | _ => false

def isNotFound (f : Failure) : Bool :=
  match f.cause with
  | .node e => e.isNotFound
  | _ => false

end Failure

end TaxLedger
