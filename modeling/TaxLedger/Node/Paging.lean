import TaxLedger.Node.Answer
import TaxLedger.Node.Error
import TaxLedger.Power
import TaxLedger.Work

/-!
# Pages

Long lists come from a node in pages. Transactions are asked for by the number of those that are there
already, contracts by the key that the page before has given.
-/

namespace TaxLedger

def pageLimit : Nat := 100

variable {σ : Type}

namespace TxPage

/-- The length of the whole list as this page tells it; counts have 64 bits. -/
def listed (p : TxPage) : Int :=
  let inPage := (p.page.map (·.total)).getD 0
  min (if 0 < inPage then inPage else p.total) int64Max

def transactions (p : TxPage) : List Transaction := p.signed.zipWith Transaction.mk p.results

def isMatched (p : TxPage) : Bool := p.signed.length == p.results.length

def mismatch (p : TxPage) (height : Int) : String :=
  toString p.signed.length ++ " txs but " ++ toString p.results.length ++
    " tx responses at height " ++ toString height

/-- Whether nothing follows a page, when there are `count` transactions with those of the page. -/
def isLast (p : TxPage) (count : Nat) : Bool :=
  p.signed.length < pageLimit || p.listed ≤ count

theorem listed_le (p : TxPage) : p.listed ≤ int64Max := Int.min_le_right _ _

theorem count_lt_of_not_isLast {p : TxPage} {count : Nat} (h : p.isLast count = false) :
    pageLimit ≤ p.signed.length ∧ count < int64Max := by
  have hle := listed_le p
  simp only [isLast, Bool.or_eq_false_iff, decide_eq_false_iff_not] at h
  omega

theorem length_transactions {p : TxPage} (h : p.isMatched = true) :
    p.transactions.length = p.signed.length := by
  have h : p.signed.length = p.results.length := by simpa [isMatched] using h
  simp [transactions, List.length_zipWith, ← h]

/-- All transactions, where `fetch` gives the page behind so many and `done` are there already. A page
that is not matched is refused. -/
def collectFrom (refuse : TxPage → NodeError) (fetch : Nat → Work σ NodeError TxPage)
    (done : List Transaction) : Work σ NodeError (List Transaction) :=
  ExceptT.mk fun s =>
    match (fetch done.length).on s with
    | none => none
    | some (.error e, s) => some (.error e, s)
    | some (.ok page, s) =>
      if _h : page.isMatched then
        let done' := done ++ page.transactions
        if _h' : page.isLast done'.length then some (.ok done', s)
        else (collectFrom refuse fetch done').on s
      else some (.error (refuse page), s)
termination_by int64Max.toNat - done.length
decreasing_by
  have hlast := count_lt_of_not_isLast (by simpa using _h')
  have hlen := length_transactions _h
  have hdone : done'.length = done.length + page.signed.length := by
    simp [done', List.length_append, hlen]
  simp only [pageLimit, int64Max] at hlast
  simp only [List.length_append, hlen, int64Max]
  omega

def collect (refuse : TxPage → NodeError) (fetch : Nat → Work σ NodeError TxPage) :
    Work σ NodeError (List Transaction) := collectFrom refuse fetch []

end TxPage

namespace ContractPage

def next? (p : ContractPage) : Option String :=
  (p.page.bind (·.nextKey)).filter (· != "")

/-- All contracts, where `fetch` gives the page under a key, from `key?` on; not finished after
`patience` pages. -/
def collectFrom (fetch : Option String → Work σ NodeError ContractPage) :
    (patience : Nat) → (key? : Option String) → Work σ NodeError (List String)
  | 0, _ => Work.unfinished
  | patience + 1, key? => do
    let page ← fetch key?
    match page.next? with
    | none => return page.contracts
    | some key => return page.contracts ++ (← collectFrom fetch patience (some key))

def collect (fetch : Option String → Work σ NodeError ContractPage) (patience : Nat) :
    Work σ NodeError (List String) := collectFrom fetch patience none

end ContractPage

end TaxLedger
