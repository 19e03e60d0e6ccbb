import TaxLedger.Failure
import TaxLedger.Json.Basic
import TaxLedger.Message.Decoder
import TaxLedger.Work

/-!
# Actions by script

For a rehearsal of retries and of the registry of messages: an action and a decoder whose outcomes are
laid down.
-/

namespace TaxLedger.Rehearsal

structure Script where
  outcomes : List Json
  calls : Nat := 0
  recorded : List String := []

namespace Script

/-- An action whose calls fail where the outcome is a text and succeed otherwise. -/
def action : Work Script Failure Unit :=
  Work.ofFunction fun s =>
    (match s.outcomes with
      | .str text :: _ => .error (.ofText text)
      | _ => .ok (),
      { s with outcomes := s.outcomes.drop 1, calls := s.calls + 1 })

def record (f : Failure) : Work Script Failure Unit :=
  Work.change fun s => { s with recorded := s.recorded ++ [f.headline] }

end Script

/-- A decoder that fails for a reason, or succeeds and goes by its name. -/
def scriptedDecoder (name : String) (reason : Option String) : Decoder where
  messageType := name
  blank := ⟨name, []⟩
  read typeUrl _ _ :=
    match reason with
    | some reason => .error (.logFormat typeUrl reason)
    | none => .ok ⟨name, [{ sender := name }]⟩

end TaxLedger.Rehearsal
