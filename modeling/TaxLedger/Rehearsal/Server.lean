import TaxLedger.Rehearsal.Record
import TaxLedger.Store.Connection

/-!
# A server that refuses by plan

For a rehearsal of what the program does when its store fails: a plan says which statements are
refused, how often they are let pass before that, and how often they are refused.
-/

namespace TaxLedger.Rehearsal

structure Fault where
  statement : Statement
  error : StoreError
  /-- How often the statement is let pass first. -/
  skip : Nat := 0
  /-- How often it is refused then. -/
  times : Nat := 1
  deriving DecidableEq, Repr, Inhabited

/-- The statement of two words: what is done, and to which table. The list of layouts counts as a
table, and a transaction within others has the number of its level behind an underscore. -/
def statement? (words : String) : Option Statement :=
  match words.splitOn " " with
  | ["begin"] => some .begin
  | ["commit"] => some .commit
  | ["rollback"] => some .rollback
  | ["create"] => some .create
  | ["select", "layouts"] => some .selectLayouts
  | ["insert", "layouts"] => some .insertLayout
  | ["select", table] => (Store.Table.ofName? table).map .select
  | ["insert", table] => (Store.Table.ofName? table).map .insert
  | ["update", table] => (Store.Table.ofName? table).map .update
  | ["delete", table] => (Store.Table.ofName? table).map .delete
  | ["savepoint", level] => ((level.splitOn "_").getLast?.bind String.toNat?).map .savepoint
  | _ => none

/-- A refusal of statements in JSON. A code tells duplicates from all else. -/
def Fault.ofJson (statement : Statement) (v : Json) : Fault where
  statement := statement
  error := if text v "code" = "23505" then .duplicate (text v "message") else .refused (text v "message")
  skip := (integer v "skip").toNat
  times := ((integer? v "times").getD 1).toNat

/-- The refusals to come, in the order in which they are used up. -/
abbrev Plan : Type := List Fault

namespace Plan

def heed (q : Statement) : Plan → Option StoreError × Plan
  | [] => (none, [])
  | f :: rest =>
    if f.statement = q && (0 < f.skip || 0 < f.times) then
      if 0 < f.skip then (none, { f with skip := f.skip - 1 } :: rest)
      else (some f.error, { f with times := f.times - 1 } :: rest)
    else
      let (result, rest) := heed q rest
      (result, f :: rest)

end Plan

instance : Server Plan := ⟨Plan.heed⟩

end TaxLedger.Rehearsal
