import TaxLedger.Node.Query
import TaxLedger.Proofs.Work

/-!
The contracts of a code as a node gives them, page by page (`Node.Lists`). With patience for all pages
the indexer comes to the contracts of all of them, or to the error of the page that fails
(`Lists.collect_ends`).
-/

namespace TaxLedger

namespace ContractPage

def contractsOf (pages : List ContractPage) : List String := pages.flatMap (·.contracts)

end ContractPage

variable {ν : Type} {node : Node ν} {code : Nat}

/-- What a node gives that is asked for the contracts of a code from a key on: pages, each of which but
the last names the key of the one behind it, or the error of the first page that fails. -/
inductive Node.Lists (node : Node ν) (code : Nat) :
    Option String → ν → Except NodeError (List ContractPage) → ν → Prop
  | last {key? : Option String} {n n' : ν} {page : ContractPage}
      (given : (node.contractPage code key?).on n = some (.ok page, n')) (ends : page.next? = none) :
      Lists node code key? n (.ok [page]) n'
  | more {key? : Option String} {key : String} {n n' n'' : ν} {page : ContractPage}
      {rest : Except NodeError (List ContractPage)}
      (given : (node.contractPage code key?).on n = some (.ok page, n'))
      (goesOn : page.next? = some key) (later : Lists node code (some key) n' rest n'') :
      Lists node code key? n (rest.map (page :: ·)) n''
  | failed {key? : Option String} {n n' : ν} {e : NodeError}
      (refused : (node.contractPage code key?).on n = some (.error e, n')) :
      Lists node code key? n (.error e) n'

inductive Node.Reaches (node : Node ν) (start : ν) : ν → Prop
  | start : Reaches node start start
  | asked {n : ν} (request : Request) (reached : Reaches node start n) :
      Reaches node start (node.ask request n).2

theorem Node.Reaches.contractPage {start n n' : ν} {key? : Option String}
    {outcome : Except NodeError ContractPage} (reached : node.Reaches start n)
    (came : (node.contractPage code key?).on n = some (outcome, n')) : node.Reaches start n' := by
  cases came
  exact .asked _ reached

namespace Node.Lists

open ContractPage

variable {key? : Option String} {n n' : ν} {result : Except NodeError (List ContractPage)}

theorem reaches {start : ν} (lists : node.Lists code key? n result n')
    (reached : node.Reaches start n) : node.Reaches start n' := by
  induction lists with
  | last given ends => exact reached.contractPage given
  | more given goesOn later ih => exact ih (reached.contractPage given)
  | failed refused => exact reached.contractPage refused

theorem collectFrom_ends (lists : node.Lists code key? n result n') :
    Work.Ends (fun patience => collectFrom (node.contractPage code) patience key?) n
      (result.map contractsOf) n' := by
  induction lists with
  | @last _ _ _ page given ends =>
    refine .turn (fun _ => rfl) (.bind (.of_on given) ?_)
    rw [ends]
    have all : contractsOf [page] = page.contracts := List.flatMap_singleton ..
    exact .of_on (congrArg (fun contracts => some (Except.ok contracts, _)) all.symm)
  | more given goesOn later ih =>
    refine .turn (fun _ => rfl) (.bind (.of_on given) ?_)
    rw [goesOn]
    rename_i rest
    cases rest with
    | error e => exact .bind_error ih
    | ok pages => exact .bind ih (.of_on rfl)
  | failed refused => exact .turn (fun _ => rfl) (.bind_error (.of_on refused))

theorem contracts_ends (lists : node.Lists code none n result n') :
    Work.Ends (fun patience => node.contracts patience code) n (result.map contractsOf) n' :=
  lists.collectFrom_ends

end Node.Lists

end TaxLedger
