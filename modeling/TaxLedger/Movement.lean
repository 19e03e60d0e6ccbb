import TaxLedger.Coin

/-!
# Movements

A movement is one taxable change of holdings: a coin that an account sends, a coin that one receives,
or both.
-/

namespace TaxLedger

/-- What moved between two accounts. An empty account name stands for nobody. -/
structure Movement where
  sender : String := ""
  receiver : String := ""
  amountSent : Option Decimal := none
  denomSent : Option String := none
  amountReceived : Option Decimal := none
  denomReceived : Option String := none
  deriving DecidableEq, Repr, Inhabited

namespace Movement

/-- The same coin leaves `sender` and arrives at `receiver`. -/
def transfer (sender receiver : String) (coin : Coin) : Movement :=
  ⟨sender, receiver, some coin.amount, some coin.denom, some coin.amount, some coin.denom⟩

def receipt (receiver : String) (coin : Coin) : Movement :=
  { receiver, amountReceived := some coin.amount, denomReceived := some coin.denom }

def payment (sender : String) (coin : Coin) : Movement :=
  { sender, amountSent := some coin.amount, denomSent := some coin.denom }

def swap (account : String) (given gotten : Coin) : Movement :=
  ⟨account, account, some given.amount, some given.denom, some gotten.amount, some gotten.denom⟩

def sent? (m : Movement) : Option Coin := do return ⟨← m.amountSent, ← m.denomSent⟩

def received? (m : Movement) : Option Coin := do return ⟨← m.amountReceived, ← m.denomReceived⟩

end Movement

end TaxLedger
