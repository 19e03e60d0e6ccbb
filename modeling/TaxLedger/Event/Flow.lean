import TaxLedger.Event.Basic
import TaxLedger.Coin

/-!
# Coins in events

The coins that a party received or spent according to the bank events of a message, and the groups
of a transfer event.
-/

namespace TaxLedger

/-- The coin lists that directly follow an attribute `partyKey` with the value `party`: the next
attribute has to be an amount. -/
def amountsFollowing (partyKey party : String) : List Attribute → List String
  | [] => []
  | a :: rest =>
    let tail := amountsFollowing partyKey party rest
    if a.key = partyKey && a.value = party then
      match rest with
      | next :: _ => if next.key = "amount" then next.value :: tail else tail
      | [] => tail
    else tail

/-- The coins of `party` in the events, in order and with repetitions. -/
def coinsFollowing (partyKey party : String) (events : List Event) :
    Except DecodeError (List Coin) := do
  let lists ← (events.flatMap fun e => amountsFollowing partyKey party e.attributes).mapM
    Coin.parseList
  return lists.flatten

def coinsReceived (receiver : String) (events : List Event) : Except DecodeError (List Coin) :=
  coinsFollowing "receiver" receiver events

def coinsSpent (spender : String) (events : List Event) : Except DecodeError (List Coin) :=
  coinsFollowing "spender" spender events

/-- One group of a transfer event: who gets what from whom. -/
structure Transfer where
  recipient : String
  sender : String := ""
  amount : String := ""
  deriving DecidableEq, Repr, Inhabited

namespace Transfer

/-- Splits attributes into groups, of which `current` is the open one. A recipient opens a group;
sender and amount belong to the open group, and the last of each counts. -/
def groups : (current : Option Transfer) → List Attribute → Except DecodeError (List Transfer)
  | current, [] => .ok current.toList
  | current, a :: rest =>
    if a.key = "recipient" then
      (groups (some { recipient := a.value }) rest).map (current.toList ++ ·)
    else if a.key = "sender" then
      match current with
      | some t => groups (some { t with sender := a.value }) rest
      | none => .error (.logFormat "transfer" "sender before recipient")
    else if a.key = "amount" then
      match current with
      | some t => groups (some { t with amount := a.value }) rest
      | none => .error (.logFormat "transfer" "amount before recipient")
    else groups current rest

def ofEvent (e : Event) : Except DecodeError (List Transfer) :=
  if e.kind = "transfer" then groups none e.attributes
  else .error (.logFormat e.kind "expected a transfer event")

def foldAll {α : Type} (add : α → Transfer → Except DecodeError α) (start : α)
    (events : List Event) : Except DecodeError α :=
  events.foldlM (fun acc e => do
    let transfers ← ofEvent e
    transfers.foldlM add acc) start

end Transfer

end TaxLedger
