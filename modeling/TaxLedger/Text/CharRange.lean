/-!
# Code point tables

Membership in a sorted table of code point ranges, by halving.
-/

namespace TaxLedger.Text.CharRange

/-- Index of the last entry of `table[lo:hi]` whose first component is at most `n`; `lo` when there
is none. `fuel` bounds the number of halvings. -/
def search (table : Array (Nat × Nat)) (n : Nat) : (fuel lo hi : Nat) → Nat
  | 0, lo, _ => lo
  | fuel + 1, lo, hi =>
    if hi ≤ lo + 1 then lo
    else
      let mid := (lo + hi) / 2
      match table[mid]? with
      | none => lo
      | some (first, _) =>
        if first ≤ n then search table n fuel mid hi else search table n fuel lo mid

/-- The entry whose first component is the greatest one not above `n`. -/
def entry? (table : Array (Nat × Nat)) (n : Nat) : Option (Nat × Nat) :=
  (table[search table n table.size 0 table.size]?).filter (·.1 ≤ n)

def mem (table : Array (Nat × Nat)) (n : Nat) : Bool :=
  match entry? table n with
  | some (_, last) => n ≤ last
  | none => false

end TaxLedger.Text.CharRange
