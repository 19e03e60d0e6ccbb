import Mathlib.Data.List.Basic
import TaxLedger.Export

/-!
The export as a merge. It holds a row for each entry, in the order of their times; at one time movements come
before events and events before fees, each kind as it was given. What is exported of a span of time is the
export of the entries of that span (`rows_merge`). A side of an entry keeps its amount and denomination,
unless it has no denomination: then it is left out (`unnamed_amount_left_out`).
-/

namespace TaxLedger

namespace Timestamp
variable {s t u : Timestamp}

theorem notAfter_iff :
    s.notAfter t = true ↔ s.seconds < t.seconds ∨ s.seconds = t.seconds ∧ s.nanos ≤ t.nanos := by
  simp [notAfter]

theorem notAfter_refl (t : Timestamp) : t.notAfter t = true := by
  rw [notAfter_iff]
  exact .inr ⟨rfl, Nat.le_refl _⟩

theorem notAfter_trans (first : s.notAfter t = true) (second : t.notAfter u = true) :
    s.notAfter u = true := by
  rw [notAfter_iff] at *
  omega

theorem notAfter_total (s t : Timestamp) : (s.notAfter t || t.notAfter s) = true := by
  rw [Bool.or_eq_true, notAfter_iff, notAfter_iff]
  omega

end Timestamp

/-! ### Stable sorting -/

section
variable {α : Type} {le : α → α → Bool}

theorem filter_parts {a : α} {xs ys : List α} (before : ∀ x ∈ xs, le a x = false)
    (behind : ∀ y ∈ ys, le a y = true) :
    (xs ++ ys).filter (!le a ·) = xs ∧ (xs ++ ys).filter (le a) = ys := by
  rw [List.filter_append, List.filter_append]
  have front : xs.filter (!le a ·) = xs := List.filter_eq_self.mpr (by simpa using before)
  have back : ys.filter (le a) = ys := List.filter_eq_self.mpr behind
  have noFront : xs.filter (le a) = [] := List.filter_eq_nil_iff.mpr (by simpa using before)
  have noBack : ys.filter (!le a ·) = [] := List.filter_eq_nil_iff.mpr (by simpa using behind)
  rw [front, back, noFront, noBack, List.append_nil, List.nil_append]
  exact ⟨rfl, rfl⟩

/-- A stable sort of some of the items is some of the stable sort. -/
theorem filter_mergeSort (trans : ∀ a b c, le a b = true → le b c = true → le a c = true)
    (total : ∀ a b, (le a b || le b a) = true) (p : α → Bool) (xs : List α) :
    (xs.mergeSort le).filter p = (xs.filter p).mergeSort le := by
  induction xs with
  | nil => simp
  | cons a rest ih =>
    obtain ⟨front, back, whole, others, before⟩ := List.mergeSort_cons trans total a rest
    rw [others, List.filter_append] at ih
    rw [whole, List.filter_append, List.filter_cons, List.filter_cons]
    by_cases kept : p a = true
    · rw [if_pos kept, if_pos kept]
      obtain ⟨front', back', whole', others', before'⟩ :=
        List.mergeSort_cons trans total a (rest.filter p)
      have sorted := List.pairwise_mergeSort trans total (a :: rest)
      have sorted' := List.pairwise_mergeSort trans total (a :: rest.filter p)
      rw [whole, List.pairwise_append, List.pairwise_cons] at sorted
      rw [whole', List.pairwise_append, List.pairwise_cons] at sorted'
      -- Both sorts put the item between the same others: those that it is not before, and the rest.
      have ahead : ∀ x ∈ front.filter p, le a x = false := by
        intro x member
        simpa using before x (List.mem_of_mem_filter member)
      have after : ∀ x ∈ back.filter p, le a x = true := by
        intro x member
        exact sorted.2.1.1 x (List.mem_of_mem_filter member)
      have ahead' : ∀ x ∈ front', le a x = false := by
        intro x member
        simpa using before' x member
      have parts := filter_parts ahead after
      have parts' := filter_parts ahead' sorted'.2.1.1
      rw [ih.trans others', parts'.1, parts'.2] at parts
      rw [whole', parts.1, parts.2]
    · rw [if_neg kept, if_neg kept]
      exact ih

end

namespace Export

/-! ### Rows and their entries -/

def Amount.raw (a : Amount) : Decimal × String := (a.amount, a.denom)

/-- One side of an entry: an amount with its denomination, and nothing without one. -/
def side (amount : Decimal) (denom : Option String) : Option (Decimal × String) :=
  (denom.filter (· ≠ "")).map fun name => (amount, name)

def Row.raw (r : Row) : Option (Decimal × String) × Option (Decimal × String) :=
  (r.sent.map Amount.raw, r.received.map Amount.raw)

def MovementEntry.raw (e : MovementEntry) : Option (Decimal × String) × Option (Decimal × String) :=
  (side e.amountSent e.denomSent, side e.amountReceived e.denomReceived)

/-- The amount of an event is sent or received as its source says. -/
def EventEntry.raw (e : EventEntry) : Option (Decimal × String) × Option (Decimal × String) :=
  if (BlockEvent.Source.ofCode? e.source).any (·.isOutflow) then (side e.amount (some e.denom), none)
  else (none, side e.amount (some e.denom))

def FeeEntry.raw (e : FeeEntry) : Option (Decimal × String) × Option (Decimal × String) :=
  (side e.amount (some e.denom), none)

section
variable (known : Denom.Known)

theorem raw_amountOf (amount : Decimal) (denom : Option String) :
    (amountOf known amount denom).map Amount.raw = side amount denom := by
  unfold amountOf side
  cases denom with
  | none => rfl
  | some name =>
    by_cases empty : name = ""
    · simp [empty, Option.filter]
    · simp [empty, Option.filter, Amount.raw]

theorem raw_movement (e : MovementEntry) : (e.row known).raw = e.raw := by
  unfold Row.raw MovementEntry.row MovementEntry.raw
  rw [raw_amountOf, raw_amountOf]

theorem raw_event (e : EventEntry) : (e.row known).raw = e.raw := by
  unfold Row.raw EventEntry.row EventEntry.raw
  dsimp only
  split
  · simp [raw_amountOf]
  · simp [raw_amountOf]

theorem raw_fee (e : FeeEntry) : (e.row known).raw = e.raw := by
  unfold Row.raw FeeEntry.row FeeEntry.raw
  simp [raw_amountOf]

theorem time_event (e : EventEntry) : (e.row known).time = e.time := by
  unfold EventEntry.row
  dsimp only
  split <;> rfl

/-! ### The merge -/

theorem rows_filter (movements : List MovementEntry) (events : List EventEntry)
    (fees : List FeeEntry) (inside : Timestamp → Bool) :
    (rows known movements events fees).filter (fun r => inside r.time) =
      rows known (movements.filter fun e => inside e.time) (events.filter fun e => inside e.time)
        (fees.filter fun e => inside e.time) := by
  have moved : (movements.map (·.row known)).filter (fun r => inside r.time) =
      (movements.filter fun e => inside e.time).map (·.row known) := List.filter_map ..
  have happened : (events.map (·.row known)).filter (fun r => inside r.time) =
      (events.filter fun e => inside e.time).map (·.row known) := by
    rw [List.filter_map]
    simp only [Function.comp_def, time_event]
  have paid : (fees.map (·.row known)).filter (fun r => inside r.time) =
      (fees.filter fun e => inside e.time).map (·.row known) := List.filter_map ..
  unfold rows
  rw [filter_mergeSort, List.filter_append, List.filter_append, moved, happened, paid]
  · intro a b c
    exact Timestamp.notAfter_trans
  · intro a b
    exact Timestamp.notAfter_total a.time b.time

/-- At one time the rows are those of the movements, then those of the events, then those of the fees. -/
theorem rows_at (movements : List MovementEntry) (events : List EventEntry) (fees : List FeeEntry)
    (t : Timestamp) :
    (rows known movements events fees).filter (fun r => r.time = t) =
      (movements.filter fun e => e.time = t).map (·.row known) ++
        (events.filter fun e => e.time = t).map (·.row known) ++
        (fees.filter fun e => e.time = t).map (·.row known) := by
  rw [rows_filter known movements events fees fun time => time = t]
  unfold rows
  apply List.mergeSort_of_pairwise
  apply List.pairwise_of_forall_mem_list
  have level : ∀ r ∈ (movements.filter fun e => e.time = t).map (·.row known) ++
      (events.filter fun e => e.time = t).map (·.row known) ++
      (fees.filter fun e => e.time = t).map (·.row known), r.time = t := by
    intro r member
    simp only [List.mem_append, List.mem_map, List.mem_filter, decide_eq_true_eq] at member
    rcases member with (⟨e, ⟨_, told⟩, rfl⟩ | ⟨e, ⟨_, told⟩, rfl⟩) | ⟨e, ⟨_, told⟩, rfl⟩
    · exact told
    · rw [time_event]
      exact told
    · exact told
  intro a first b second
  rw [level a first, level b second]
  exact Timestamp.notAfter_refl t

/-- The export is a stable merge: in the order of times, a row for each entry with its amounts and
denominations, at one time by kind and then as given; and what it holds of some times is the export of the
entries of those times. -/
theorem rows_merge (movements : List MovementEntry) (events : List EventEntry)
    (fees : List FeeEntry) :
    (rows known movements events fees).Pairwise (fun a b => a.time.notAfter b.time = true) ∧
      (rows known movements events fees).Perm (movements.map (·.row known) ++
        events.map (·.row known) ++ fees.map (·.row known)) ∧
      ((∀ e ∈ movements, (e.row known).raw = e.raw) ∧ (∀ e ∈ events, (e.row known).raw = e.raw) ∧
        ∀ e ∈ fees, (e.row known).raw = e.raw) ∧
      (∀ t, (rows known movements events fees).filter (fun r => r.time = t) =
        (movements.filter fun e => e.time = t).map (·.row known) ++
          (events.filter fun e => e.time = t).map (·.row known) ++
          (fees.filter fun e => e.time = t).map (·.row known)) ∧
      ∀ inside : Timestamp → Bool,
        rows known (movements.filter fun e => inside e.time) (events.filter fun e => inside e.time)
            (fees.filter fun e => inside e.time) =
          (rows known movements events fees).filter fun r => inside r.time := by
  refine ⟨?_, List.mergeSort_perm _ _, ⟨?_, ?_, ?_⟩, rows_at known movements events fees, ?_⟩
  · apply List.pairwise_mergeSort
    · intro a b c
      exact Timestamp.notAfter_trans
    · intro a b
      exact Timestamp.notAfter_total a.time b.time
  · exact fun e _ => raw_movement known e
  · exact fun e _ => raw_event known e
  · exact fun e _ => raw_fee known e
  · exact fun inside => (rows_filter known movements events fees inside).symm

end

def unnamed : EventEntry where
  time := ⟨0, 0⟩
  height := 2
  source := 0
  amount := .ofInt 5
  denom := ""
  account := "osmo1me"

/-- Its row has neither its amount nor its denomination. -/
theorem unnamed_amount_left_out :
    (rows {} [] [unnamed] []).length = 1 ∧
      ¬∃ r ∈ rows {} [] [unnamed] [], ∃ a, (r.sent = some a ∨ r.received = some a) ∧
        a.amount = unnamed.amount ∧ a.denom = unnamed.denom := by
  have alone : rows {} [] [unnamed] [] = [unnamed.row {}] := by simp [rows]
  have bare : (unnamed.row {}).sent = none ∧ (unnamed.row {}).received = none := by decide
  rw [alone]
  refine ⟨rfl, ?_⟩
  rintro ⟨r, member, a, told, _⟩
  rw [List.mem_singleton.mp member, bare.1, bare.2] at told
  rcases told with told | told <;> cases told

end Export

end TaxLedger
