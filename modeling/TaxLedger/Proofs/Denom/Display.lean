import TaxLedger.Denom.Convert

/-!
What is known of a denomination. Units are chosen by scans that end with an item whose key is as large,
or as small, as every other. The rows show a denomination in its largest unit, counted from the one that
the name stands for (`Rows.display?_of_base`, `Rows.display?_of_unit`), so that the point never moves to
the right (`Known.display?_exponent`).
-/

namespace TaxLedger.Denom

/-! ### Scans -/

section
variable {α : Type} {pick : α → α → α} (key : α → Int)

theorem foldl_pick_mem (either : ∀ x y, pick x y = x ∨ pick x y = y) (item : α) (rest : List α) :
    rest.foldl pick item ∈ item :: rest := by
  induction rest generalizing item with
  | nil => exact List.mem_singleton_self item
  | cons x rest ih =>
    rw [List.foldl_cons]
    rcases List.mem_cons.mp (ih (pick item x)) with found | found
    · rw [found]
      rcases either item x with same | same <;> simp [same]
    · simp [found]

theorem foldl_pick_le (least : ∀ x y, key (pick x y) ≤ key x ∧ key (pick x y) ≤ key y) (item : α)
    (rest : List α) : ∀ x ∈ item :: rest, key (rest.foldl pick item) ≤ key x := by
  induction rest generalizing item with
  | nil => simp
  | cons y rest ih =>
    have later := ih (pick item y)
    have kept : key (rest.foldl pick (pick item y)) ≤ key (pick item y) := later _ List.mem_cons_self
    intro x member
    rw [List.foldl_cons]
    rcases List.mem_cons.mp member with rfl | member
    · exact Int.le_trans kept (least x y).1
    rcases List.mem_cons.mp member with rfl | member
    · exact Int.le_trans kept (least item x).2
    · exact later x (List.mem_cons_of_mem _ member)

theorem le_foldl_pick (greatest : ∀ x y, key x ≤ key (pick x y) ∧ key y ≤ key (pick x y)) (item : α)
    (rest : List α) : ∀ x ∈ item :: rest, key x ≤ key (rest.foldl pick item) := by
  intro x member
  have least (y z : α) : -key (pick y z) ≤ -key y ∧ -key (pick y z) ≤ -key z :=
    ⟨Int.neg_le_neg (greatest y z).1, Int.neg_le_neg (greatest y z).2⟩
  exact Int.le_of_neg_le_neg (foldl_pick_le (fun x => -key x) least item rest x member)

end

section
variable {α : Type} {key : α → Int} {items : List α} {best : α}

theorem firstLeast?_some (found : firstLeast? key items = some best) :
    best ∈ items ∧ ∀ x ∈ items, key best ≤ key x := by
  cases items with
  | nil => cases found
  | cons item rest =>
    obtain rfl := Option.some.inj found
    constructor
    · exact foldl_pick_mem (fun x y => by split <;> simp) item rest
    · exact foldl_pick_le key (fun x y => by split <;> omega) item rest

theorem firstLeast?_isSome (filled : items ≠ []) : ∃ best, firstLeast? key items = some best := by
  cases items with
  | nil => exact absurd rfl filled
  | cons item rest => exact ⟨_, rfl⟩

theorem lastGreatest?_some (found : lastGreatest? key items = some best) :
    best ∈ items ∧ ∀ x ∈ items, key x ≤ key best := by
  cases items with
  | nil => cases found
  | cons item rest =>
    obtain rfl := Option.some.inj found
    constructor
    · exact foldl_pick_mem (fun x y => by split <;> simp) item rest
    · exact le_foldl_pick key (fun x y => by split <;> omega) item rest

theorem lastGreatest?_isSome (filled : items ≠ []) : ∃ best, lastGreatest? key items = some best := by
  cases items with
  | nil => exact absurd rfl filled
  | cons item rest => exact ⟨_, rfl⟩

theorem last?_eq {beats : α → α → Bool} (larger : ∀ x y, beats x y = decide (key y < key x)) :
    last? beats items = lastGreatest? key items := by
  cases items with
  | nil => rfl
  | cons item rest => simp only [last?, lastGreatest?, larger, decide_eq_true_eq]

end

/-! ### Units of an asset -/

namespace Asset
variable {a : Asset} {low high : AssetUnit}

theorem lowest?_eq (a : Asset) : a.lowest? = lastGreatest? (fun u => -(u.exponent : Int)) a.units :=
  last?_eq fun u v => by simp

theorem highest?_eq (a : Asset) : a.highest? = lastGreatest? (fun u => (u.exponent : Int)) a.units :=
  last?_eq fun u v => by simp

theorem lowest?_some (lowest : a.lowest? = some low) :
    low ∈ a.units ∧ ∀ u ∈ a.units, low.exponent ≤ u.exponent := by
  rw [lowest?_eq] at lowest
  obtain ⟨member, least⟩ := lastGreatest?_some lowest
  refine ⟨member, fun u inside => ?_⟩
  have below := least u inside
  omega

theorem highest?_some (highest : a.highest? = some high) :
    high ∈ a.units ∧ ∀ u ∈ a.units, u.exponent ≤ high.exponent := by
  rw [highest?_eq] at highest
  obtain ⟨member, greatest⟩ := lastGreatest?_some highest
  refine ⟨member, fun u inside => ?_⟩
  have above := greatest u inside
  omega

theorem extremes (filled : a.units ≠ []) : ∃ low high, a.lowest? = some low ∧ a.highest? = some high := by
  rw [lowest?_eq, highest?_eq]
  obtain ⟨low, lowest⟩ := lastGreatest?_isSome filled
  obtain ⟨high, highest⟩ := lastGreatest?_isSome filled
  exact ⟨low, high, lowest, highest⟩

theorem display_eq (lowest : a.lowest? = some low) (highest : a.highest? = some high) (name : String) :
    a.display name = ⟨high.exponent - low.exponent, symbolOr a.symbol high.denom⟩ := by
  rw [display, lowest, highest]
  rfl

theorem display_of_empty (empty : a.units = []) (name : String) :
    a.display name = ⟨0, symbolOr a.symbol name⟩ := by
  rw [display, lowest?, highest?, empty]
  rfl

theorem display_exponent (a : Asset) (name : String) : 0 ≤ (a.display name).exponent := by
  by_cases empty : a.units = []
  · exact Int.le_of_eq (congrArg Display.exponent (display_of_empty empty name)).symm
  · obtain ⟨low, high, lowest, highest⟩ := extremes empty
    have above := (lowest?_some lowest).2 high (highest?_some highest).1
    rw [display_eq lowest highest]
    exact Int.sub_nonneg.mpr (Int.ofNat_le.mpr above)

end Asset

/-! ### Rows -/

namespace Rows
variable {r : Rows} {d : DenomRow} {u : UnitRow} {name : String}

theorem baseUnit?_mem (found : r.baseUnit? d = some u) : u ∈ r.unitsOf d := by
  rcases Option.or_eq_some_iff.mp found with named | ⟨_, least⟩
  · exact List.mem_of_find?_eq_some named
  · exact (firstLeast?_some least).1

theorem mem_of_findLast? {α : Type} {p : α → Bool} {items : List α} {item : α}
    (found : findLast? p items = some item) : item ∈ items ∧ p item = true :=
  ⟨List.mem_reverse.mp (List.mem_of_find?_eq_some found), List.find?_some found⟩

theorem unit?_mem (found : r.unit? name = some u) : u ∈ r.units := by
  rcases Option.or_eq_some_iff.mp found with named | ⟨_, aliased⟩
  · exact (mem_of_findLast? named).1
  · obtain ⟨a, _, owned⟩ := List.exists_of_findSome?_eq_some aliased
    exact (mem_of_findLast? owned).1

theorem denomOf?_mem (member : u ∈ r.units) (owner : r.denomOf? u = some d) : u ∈ r.unitsOf d := by
  have owned := List.find?_some owner
  rw [Bool.and_eq_true, beq_iff_eq] at owned
  exact List.mem_filter.mpr ⟨member, by simp [owned.1]⟩

def shownFrom? (r : Rows) (d : DenomRow) (u : UnitRow) : Option Display :=
  (r.displayUnit? d).map fun highest =>
    ⟨highest.exponent - u.exponent, symbolOr (d.symbol.getD "") highest.name⟩

theorem display?_of_base (found : r.denom? name = some d) :
    r.display? name = (r.baseUnit? d).bind fun u => r.shownFrom? d u := by
  rw [display?, resolve?, found]
  dsimp only
  cases r.baseUnit? d with
  | none => rfl
  | some u => cases highest : r.displayUnit? d <;> simp [shownFrom?, highest]

theorem display?_of_unit (absent : r.denom? name = none) :
    r.display? name = (r.unit? name).bind fun u => (r.denomOf? u).bind fun d => r.shownFrom? d u := by
  rw [display?, resolve?, absent]
  dsimp only
  cases r.unit? name with
  | none => rfl
  | some u =>
    cases owner : r.denomOf? u with
    | none => simp [owner]
    | some d => cases highest : r.displayUnit? d <;> simp [owner, shownFrom?, highest]

theorem shownFrom?_isSome (member : u ∈ r.unitsOf d) : ∃ shown, r.shownFrom? d u = some shown := by
  obtain ⟨highest, greatest⟩ : ∃ highest, r.displayUnit? d = some highest :=
    lastGreatest?_isSome (List.ne_nil_of_mem member)
  rw [shownFrom?, greatest]
  exact ⟨_, rfl⟩

theorem shownFrom?_exponent (member : u ∈ r.unitsOf d) {shown : Display}
    (found : r.shownFrom? d u = some shown) : 0 ≤ shown.exponent := by
  obtain ⟨highest, greatest, rfl⟩ := Option.map_eq_some_iff.mp found
  exact Int.sub_nonneg.mpr ((lastGreatest?_some greatest).2 u member)

theorem display?_exponent {shown : Display} (found : r.display? name = some shown) :
    0 ≤ shown.exponent := by
  cases base : r.denom? name with
  | some d =>
    rw [display?_of_base base] at found
    obtain ⟨u, kept, counted⟩ := Option.bind_eq_some_iff.mp found
    exact shownFrom?_exponent (baseUnit?_mem kept) counted
  | none =>
    rw [display?_of_unit base] at found
    obtain ⟨u, named, found⟩ := Option.bind_eq_some_iff.mp found
    obtain ⟨d, owner, counted⟩ := Option.bind_eq_some_iff.mp found
    exact shownFrom?_exponent (denomOf?_mem (unit?_mem named) owner) counted

end Rows

/-! ### Conversion -/

namespace Known
variable {k : Known} {amount : Decimal} {denom : String} {shown : Shown}

theorem display?_exponent {d : Display} (found : k.display? denom = some d) : 0 ≤ d.exponent := by
  rw [display?] at found
  split at found
  · obtain rfl := Option.some.inj found
    exact Int.natCast_nonneg 18
  · dsimp only at found
    split at found
    · obtain rfl := Option.some.inj found
      exact Asset.display_exponent _ _
    · exact Rows.display?_exponent found

/-- Shares of pools and assets of the catalog are always known. -/
theorem display?_eq_none_iff : k.display? denom = none ↔ denom.startsWith poolShareStart = false ∧
    k.catalog.find? (lookupName denom) = none ∧ k.rows.display? (lookupName denom) = none := by
  rw [display?]
  cases denom.startsWith poolShareStart with
  | true => simp
  | false => cases found : k.catalog.find? (lookupName denom) <;> simp [found]

theorem convert_of_none (unknown : k.display? denom = none) :
    k.convert amount denom = .error ⟨denom⟩ := by
  rw [convert, unknown]

theorem convert_ok_iff :
    k.convert amount denom = .ok shown ↔ ∃ d, k.display? denom = some d ∧ d.apply amount = shown := by
  rw [convert]
  cases k.display? denom <;> simp

end Known

end TaxLedger.Denom
