/-!
# Store errors

Why the store did not do what it was asked for.
-/

namespace TaxLedger

inductive StoreError where
  /-- A row with that key is there already. -/
  | duplicate (text : String)
  /-- The statement was refused for another reason. -/
  | refused (text : String)
  /-- A row that has to be there is not. -/
  | missingRow
  /-- No connection can be had. -/
  | unavailable (text : String)
  deriving DecidableEq, Repr, Inhabited

namespace StoreError

def message : StoreError → String
  | .duplicate text => text
  | .refused text => text
  | .missingRow => "Record not found"
  | .unavailable text => text

end StoreError

end TaxLedger
