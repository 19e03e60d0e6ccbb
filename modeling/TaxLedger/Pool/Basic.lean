import TaxLedger.Event.Flow
import TaxLedger.Message.Decoder

/-!
# Pool messages

Shares of a pool, and how a payment in shares is divided among the tokens it is for; and what the readers
of pool messages have in common: their result, and the pieces of a log and a body that they look at.
-/

namespace TaxLedger.Pool

open Message

/-! ### Shares -/

def containsChars (part : List Char) : List Char → Bool
  | [] => part.isEmpty
  | c :: cs => part.isPrefixOf (c :: cs) || containsChars part cs

def isShare (text : String) : Bool := containsChars "gamm".toList text.toList

def isShareDenom (denom : String) : Bool := "gamm/pool/".toList.isPrefixOf denom.toList

def shareDenom (poolId : String) : String := "gamm/pool/" ++ poolId

/-- Divides shares into `n` parts. All but the last are the integer part of an equal share, computed
to a hundred significant digits; the last part takes what is left. -/
def splitShares (shares : Coin) : (n : Nat) → List Coin
  | 0 => []
  | n + 1 =>
    let each := (shares.amount.divide (.ofInt (n + 1 : Nat))).withScale 0
    List.replicate n ⟨each, shares.denom⟩ ++ [⟨shares.amount - each * .ofInt n, shares.denom⟩]

/-- Tokens given for shares: one movement per token, each for an equal part of the shares. -/
def depositLegs (account : String) (tokens : List Coin) (shares : Coin) : List Movement :=
  List.zipWith (fun part token => Movement.swap account token part)
    (splitShares shares tokens.length) tokens

/-- Shares given for tokens: one movement per token, each paid with an equal part of the shares. -/
def withdrawalLegs (account : String) (shares : Coin) (tokens : List Coin) : List Movement :=
  List.zipWith (fun part token => Movement.swap account part token)
    (splitShares shares tokens.length) tokens

/-! ### Readers -/

structure Outcome where
  account : String := ""
  movements : List Movement := []
  deriving DecidableEq, Repr, Inhabited

abbrev Reader := (typeUrl : String) → Json → LogEntry → Except DecodeError Outcome

structure Swap where
  account : String
  tokenIn : Coin
  tokenOut : Coin
  deriving DecidableEq, Repr, Inhabited

abbrev SwapReader := (typeUrl : String) → Json → LogEntry → Except DecodeError Swap

def Swap.movement (s : Swap) : Movement := Movement.swap s.account s.tokenIn s.tokenOut

def Swap.outcome (s : Swap) : Outcome := ⟨s.account, [s.movement]⟩

def swapping (read : SwapReader) : Reader := fun typeUrl message entry =>
  (read typeUrl message entry).map Swap.outcome

/-- What a message about the shares of a pool tells: the account, the shares that it gets or gives away,
the tokens they are for, and what moves besides. -/
structure Liquidity where
  account : String
  shares : Coin
  tokens : List Coin
  others : List Movement := []
  deriving DecidableEq, Repr, Inhabited

abbrev LiquidityReader := (typeUrl : String) → Json → LogEntry → Except DecodeError Liquidity

inductive Side where
  | deposit
  | withdrawal
  deriving DecidableEq, Repr

def Liquidity.legs (l : Liquidity) : Side → List Movement
  | .deposit => depositLegs l.account l.tokens l.shares
  | .withdrawal => withdrawalLegs l.account l.shares l.tokens

def Liquidity.outcome (l : Liquidity) (side : Side) : Outcome :=
  ⟨l.account, l.legs side ++ l.others⟩

def liquidity (side : Side) (read : LiquidityReader) : Reader := fun typeUrl message entry =>
  (read typeUrl message entry).map fun l => l.outcome side

def mismatch {α : Type} (typeUrl reason : String) : Except DecodeError α :=
  .error (.logFormat typeUrl reason)

def missing {α : Type} (typeUrl what : String) : Except DecodeError α :=
  mismatch typeUrl ("missing " ++ what)

/-- The text from the log, or the one from the body where that is empty. -/
def orBody (fromLog fromBody : String) : String := if fromLog = "" then fromBody else fromLog

def event (typeUrl : String) (entry : LogEntry) (kind : String) : Except DecodeError Event :=
  requireEvent typeUrl entry kind ("missing " ++ kind ++ " event")

def senderOfJson? (v : Json) : Option String :=
  match v.record? ["sender"] with
  | some [sender] => Json.required Json.readString sender
  | _ => none

/-- The sender and the outgoing tokens of the `pool_exited` event; there is at least one token. -/
def exited (typeUrl : String) (entry : LogEntry) (sender : String) :
    Except DecodeError (String × List Coin) := do
  let e ← event typeUrl entry "pool_exited"
  let tokens ← Coin.parseList (e.first "tokens_out")
  if tokens.isEmpty then missing typeUrl "tokens_out"
  else return (orBody (e.first "sender") sender, tokens)

end TaxLedger.Pool
