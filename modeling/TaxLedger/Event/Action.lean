import TaxLedger.Event.Basic

/-!
# Message actions

A message leaves its name in the `action` attribute of its `message` event: the type URL, or a short
name in snake case that older nodes wrote.
-/

namespace TaxLedger

def afterLast? (marker : List Char) : List Char → Option (List Char)
  | [] => if marker.isEmpty then some [] else none
  | c :: cs =>
    match afterLast? marker cs with
    | some rest => some rest
    | none =>
      if marker.isPrefixOf (c :: cs) then some ((c :: cs).drop marker.length) else none

def isCapital (c : Char) : Bool := 'A' ≤ c && c ≤ 'Z'

/-- The characters in snake case behind other characters: a capital becomes an underscore and its
small letter. -/
def snakeTail (cs : List Char) : List Char :=
  cs.flatMap fun c => if isCapital c then ['_', c.toLower] else [c]

def snakeCase : List Char → List Char
  | [] => []
  | c :: cs => (if isCapital c then c.toLower else c) :: snakeTail cs

/-- The short action name of a message type: its name behind `.Msg` in snake case. Undelegating has a
name of its own. -/
def legacyAction (typeUrl : String) : String :=
  if ".MsgUndelegate".toList.isSuffixOf typeUrl.toList then "begin_unbonding"
  else
    match afterLast? ".Msg".toList typeUrl.toList with
    | some name => String.ofList (snakeCase name)
    | none => ""

/-- Whether the first action of the first `message` event names the type, in either form. -/
def LogEntry.hasAction (entry : LogEntry) (typeUrl : String) : Bool :=
  match entry.firstOfKind? "message" with
  | none => false
  | some message =>
    match message.find? "action" with
    | some action => action == typeUrl || action == legacyAction typeUrl
    | none => false

end TaxLedger
