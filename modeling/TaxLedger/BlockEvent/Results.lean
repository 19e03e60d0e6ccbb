import TaxLedger.Event.Basic

/-!
# Block results

The events at the beginning and at the end of a block. Newer nodes give one list of events, each with
a mode that tells where it belongs.
-/

namespace TaxLedger.BlockEvent

structure RawResults where
  height : Int := 0
  beginEvents : Option (List Event) := none
  endEvents : Option (List Event) := none
  finalizeEvents : Option (List Event) := none
  deriving DecidableEq, Repr, Inhabited

structure Results where
  height : Int := 0
  beginEvents : List Event := []
  endEvents : List Event := []
  deriving DecidableEq, Repr, Inhabited

def RawResults.ofJson? (v : Json) : Option RawResults :=
  match v.record?
      ["height", "begin_block_events", "end_block_events", "finalize_block_events"] with
  | some [height, beginEvents, endEvents, finalizeEvents] => do
    let events := Json.withDefault none (Json.nullable (Json.readList Event.ofJson?))
    let height ← Json.withDefault 0 Json.readCount height
    let beginEvents ← events beginEvents
    let endEvents ← events endEvents
    let finalizeEvents ← events finalizeEvents
    return ⟨height, beginEvents, endEvents, finalizeEvents⟩
  | _ => none

def modeKey : String := "mode"

def hasMode (e : Event) (mode : String) : Bool :=
  e.attributes.any fun a => a.key == modeKey && a.value == mode

def withoutMode (e : Event) : Event :=
  { e with attributes := e.attributes.filter fun a => a.key != modeKey }

/-- Adds the events of a common list to the list that the mode of each names. An event needs exactly
one of the two modes; the error tells the first that has not. -/
def Results.addFinalized (r : Results) : List Event → Except String Results
  | [] => .ok r
  | e :: rest =>
    match hasMode e "BeginBlock", hasMode e "EndBlock" with
    | true, false =>
      addFinalized { r with beginEvents := r.beginEvents ++ [withoutMode e] } rest
    | false, true => addFinalized { r with endEvents := r.endEvents ++ [withoutMode e] } rest
    | true, true => .error (e.kind ++ " event is marked both BeginBlock and EndBlock")
    | false, false => .error (e.kind ++ " event has no BeginBlock or EndBlock mode")

def RawResults.normalize (raw : RawResults) : Except String Results :=
  Results.addFinalized ⟨raw.height, raw.beginEvents.getD [], raw.endEvents.getD []⟩
    (raw.finalizeEvents.getD [])

end TaxLedger.BlockEvent
