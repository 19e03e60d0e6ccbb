import Mathlib.Data.List.Forall2
import Mathlib.Data.List.Nodup
import TaxLedger.Proofs.Decimal.Value
import TaxLedger.Proofs.Denom.Display

/-!
An asset in the catalog and in the rows of the store. Both show it in its largest unit and with the same
symbol, but the catalog counts from the smallest unit and the rows count from the unit that has the name
of the base, if there is one (`stored_alike_iff`).
-/

namespace TaxLedger.Denom

structure AssetUnit.StoredAs (denom : Int) (u : AssetUnit) (row : UnitRow) : Prop where
  denom : row.denomId = denom
  exponent : row.exponent = u.exponent
  name : row.name = u.denom

/-- Rows of one asset and of nothing else but aliases. -/
structure Asset.StoredAs (a : Asset) (row : DenomRow) (r : Rows) : Prop where
  denoms : r.denoms = [row]
  base : row.base = a.base
  symbol : row.symbol = if a.symbol = "" then none else some a.symbol
  units : List.Forall₂ (AssetUnit.StoredAs row.id) a.units r.units

/-! ### Scans of units and of their rows -/

section
variable {α β : Type} {R : α → β → Prop} {xs : List α} {ys : List β}

theorem find?_related {p : α → Bool} {q : β → Bool} (related : List.Forall₂ R xs ys)
    (same : ∀ x y, R x y → p x = q y) : Option.Rel R (xs.find? p) (ys.find? q) := by
  induction related with
  | nil => exact .none
  | @cons x y xs ys first _ ih =>
    rw [List.find?_cons, List.find?_cons, same x y first]
    cases q y with
    | true => exact .some first
    | false => exact ih

theorem or_related {o p : Option α} {o' p' : Option β} (first : Option.Rel R o o')
    (second : Option.Rel R p p') : Option.Rel R (o.or p) (o'.or p') := by
  cases first with
  | none => exact second
  | some related => exact .some related

variable {key : α → Int} {key' : β → Int} (same : ∀ x y, R x y → key x = key' y)
  (related : List.Forall₂ R xs ys)
include same related

theorem lastGreatest?_related : Option.Rel R (lastGreatest? key xs) (lastGreatest? key' ys) := by
  cases related with
  | nil => exact .none
  | cons first rest =>
    refine .some (List.rel_foldl (fun x y best x' y' item => ?_) first rest)
    rw [same x y best, same x' y' item]
    split
    · exact best
    · exact item

theorem firstLeast?_related : Option.Rel R (firstLeast? key xs) (firstLeast? key' ys) := by
  cases related with
  | nil => exact .none
  | cons first rest =>
    refine .some (List.rel_foldl (fun x y best x' y' item => ?_) first rest)
    rw [same x y best, same x' y' item]
    split
    · exact item
    · exact best

end

/-! ### What the rows of an asset show -/

namespace Asset
variable {a : Asset} {row : DenomRow} {r : Rows} {u low high : AssetUnit}

def start? (a : Asset) : Option AssetUnit :=
  (a.units.find? (·.denom == a.base)).or (firstLeast? (fun u => (u.exponent : Int)) a.units)

theorem start?_some (start : a.start? = some u) : u ∈ a.units ∧
    (u.denom = a.base ∨ (∀ v ∈ a.units, v.denom ≠ a.base) ∧ ∀ v ∈ a.units, u.exponent ≤ v.exponent) := by
  rcases Option.or_eq_some_iff.mp start with named | ⟨unnamed, least⟩
  · exact ⟨List.mem_of_find?_eq_some named, .inl (by simpa using List.find?_some named)⟩
  · obtain ⟨member, below⟩ := firstLeast?_some least
    refine ⟨member, .inr ⟨?_, fun v inside => Int.ofNat_le.mp (below v inside)⟩⟩
    simpa using unnamed

theorem start?_isSome (filled : a.units ≠ []) : ∃ u, a.start? = some u := by
  obtain ⟨least, scanned⟩ : ∃ u, firstLeast? (fun u => (u.exponent : Int)) a.units = some u :=
    firstLeast?_isSome filled
  cases named : a.units.find? (·.denom == a.base) with
  | some u => exact ⟨u, by simp [start?, named]⟩
  | none => exact ⟨least, by simp [start?, named, scanned]⟩

/-- The count starts at the smallest unit, unless a larger one has the name of the base. -/
theorem start?_least_iff (distinct : (a.units.map (·.denom)).Nodup) (start : a.start? = some u) :
    (∀ v ∈ a.units, u.exponent ≤ v.exponent) ↔ (∀ v ∈ a.units, v.denom ≠ a.base) ∨
      ∃ v ∈ a.units, v.denom = a.base ∧ ∀ w ∈ a.units, v.exponent ≤ w.exponent := by
  obtain ⟨member, named | ⟨unnamed, least⟩⟩ := start?_some start
  · constructor
    · exact fun least => .inr ⟨u, member, named, least⟩
    · rintro (unnamed | ⟨v, inside, known, least⟩)
      · exact absurd named (unnamed u member)
      · obtain rfl : v = u := List.inj_on_of_nodup_map distinct inside member (known.trans named.symm)
        exact least
  · exact iff_of_true least (.inl unnamed)



namespace StoredAs
variable (stored : a.StoredAs row r)
include stored

theorem denom? : r.denom? a.base = some row := by
  simp [Rows.denom?, findLast?, stored.denoms, stored.base]

theorem unitsOf : r.unitsOf row = r.units := by
  have owned : ∀ (units : List AssetUnit) (rows : List UnitRow),
      List.Forall₂ (AssetUnit.StoredAs row.id) units rows → rows.filter (·.denomId == row.id) = rows := by
    intro units rows related
    induction related with
    | nil => rfl
    | cons first _ ih => simp [first.denom, ih]
  exact owned _ _ stored.units

theorem displayUnit? : Option.Rel (AssetUnit.StoredAs row.id) a.highest? (r.displayUnit? row) := by
  rw [highest?_eq, Rows.displayUnit?, stored.unitsOf]
  exact lastGreatest?_related (fun u v related => related.exponent.symm) stored.units

theorem baseUnit? : Option.Rel (AssetUnit.StoredAs row.id) a.start? (r.baseUnit? row) := by
  rw [start?, Rows.baseUnit?, stored.unitsOf]
  refine or_related (find?_related stored.units fun u v related => ?_)
    (firstLeast?_related (fun u v related => related.exponent.symm) stored.units)
  rw [related.name, stored.base]

theorem symbol_getD : row.symbol.getD "" = a.symbol := by
  rw [stored.symbol]
  split
  · rename_i empty
    exact empty.symm
  · rfl

theorem display? : r.display? a.base = a.start?.bind fun u => a.highest?.map fun high =>
    ⟨high.exponent - u.exponent, symbolOr a.symbol high.denom⟩ := by
  have start := stored.baseUnit?
  have highest := stored.displayUnit?
  simp only [Rows.display?_of_base stored.denom?, Rows.shownFrom?, stored.symbol_getD]
  generalize a.start? = unit, r.baseUnit? row = unitRow at start ⊢
  generalize a.highest? = high, r.displayUnit? row = highRow at highest ⊢
  cases start with
  | none => rfl
  | some starts =>
    cases highest with
    | none => rfl
    | some ends => simp [starts.exponent, ends.exponent, ends.name]

end StoredAs
end Asset

/-! ### The asset in the catalog and in the store -/

theorem Display.apply_one (d : Display) : d.apply ⟨1, 0⟩ = ⟨⟨1, d.exponent⟩, d.symbol⟩ := by
  have normal : Decimal.IsNormal ⟨1, 0 + d.exponent⟩ := .inr Int.one_ne_zero
  rw [Display.apply, Decimal.normalized_of_isNormal normal, Int.zero_add]

namespace Known
variable {k other : Known} {a : Asset} {denom : String}

theorem convert_alike_iff :
    (∀ amount, ∃ shown, k.convert amount denom = .ok shown ∧ other.convert amount denom = .ok shown) ↔
      ∃ d, k.display? denom = some d ∧ other.display? denom = some d := by
  simp only [convert_ok_iff]
  constructor
  · -- The display of one unit shows the places and the symbol.
    intro alike
    obtain ⟨_, ⟨d, known, rfl⟩, d', otherwise, same⟩ := alike ⟨1, 0⟩
    rw [Display.apply_one, Display.apply_one] at same
    obtain rfl : d' = d := by
      cases d
      cases d'
      simpa using same
    exact ⟨d', known, otherwise⟩
  · rintro ⟨d, known, otherwise⟩ amount
    exact ⟨_, ⟨d, known, rfl⟩, d, otherwise, rfl⟩

end Known

section
variable {a : Asset} {row : DenomRow} {r : Rows}

/-- An asset that is listed and one that is stored are shown alike by its base exactly if the asset has
units and the one with the name of the base, if there is one, is the smallest. -/
theorem stored_alike_iff (stored : a.StoredAs row r) (distinct : (a.units.map (·.denom)).Nodup)
    (share : a.base.startsWith poolShareStart = false)
    (plain : a.base.startsWith transferStart = false) :
    (∀ amount, ∃ shown,
        ({ catalog := Catalog.ofAssets [a] } : Known).convert amount a.base = .ok shown ∧
          ({ rows := r } : Known).convert amount a.base = .ok shown) ↔
      a.units ≠ [] ∧ ((∀ u ∈ a.units, u.denom ≠ a.base) ∨
        ∃ u ∈ a.units, u.denom = a.base ∧ ∀ v ∈ a.units, u.exponent ≤ v.exponent) := by
  have listed : ({ catalog := Catalog.ofAssets [a] } : Known).display? a.base = some (a.display a.base) := by
    simp [Known.display?, share, lookupName, plain, Catalog.ofAssets, Catalog.addAll, Assoc.find?_insert]
  have kept : ({ rows := r } : Known).display? a.base = r.display? a.base := by
    simp [Known.display?, share, lookupName, plain]
  rw [Known.convert_alike_iff, listed, kept, stored.display?]
  by_cases empty : a.units = []
  · have unstarted : a.start? = none := by rw [Asset.start?, empty]; rfl
    simp [empty, unstarted]
  · obtain ⟨low, high, lowest, highest⟩ := Asset.extremes empty
    obtain ⟨u, start⟩ := Asset.start?_isSome empty
    obtain ⟨lowMember, lowLeast⟩ := Asset.lowest?_some lowest
    have uMember := (Asset.start?_some start).1
    have sameStart : high.exponent - (low.exponent : Int) = high.exponent - u.exponent ↔
        ∀ v ∈ a.units, u.exponent ≤ v.exponent := by
      constructor
      · intro same v inside
        have below := lowLeast v inside
        omega
      · intro least
        have above := least low lowMember
        have below := lowLeast u uMember
        omega
    rw [← Asset.start?_least_iff distinct start, ← sameStart, Asset.display_eq lowest highest, start,
      highest]
    simp [empty, eq_comm]

def osmo : Asset where
  base := "uosmo"
  symbol := "OSMO"
  units := [⟨"uosmo", 0, []⟩, ⟨"osmo", 6, []⟩]

def osmoRow : DenomRow := ⟨1, "uosmo", none, some "OSMO"⟩

def osmoRows : Rows where
  denoms := [osmoRow]
  units := [⟨10, 1, 0, "uosmo"⟩, ⟨11, 1, 6, "osmo"⟩]

theorem stored_alike_iff_of_osmo :
    let listed : Known := { catalog := Catalog.ofAssets [osmo] }
    let kept : Known := { rows := osmoRows }
    listed.convert ⟨2500000, 0⟩ "uosmo" = .ok ⟨⟨25, 1⟩, "OSMO"⟩ ∧
      kept.convert ⟨2500000, 0⟩ "uosmo" = .ok ⟨⟨25, 1⟩, "OSMO"⟩ := by
  intro listed kept
  have stored : osmo.StoredAs osmoRow osmoRows :=
    ⟨rfl, rfl, rfl, .cons ⟨rfl, rfl, rfl⟩ (.cons ⟨rfl, rfl, rfl⟩ .nil)⟩
  have alike := stored_alike_iff stored (by decide) (by decide +kernel) (by decide +kernel)
  have least : ∃ u ∈ osmo.units, u.denom = osmo.base ∧ ∀ v ∈ osmo.units, u.exponent ≤ v.exponent := by
    decide
  obtain ⟨shown, inList, inStore⟩ := alike.mpr ⟨by decide, .inr least⟩ ⟨2500000, 0⟩
  have value : listed.convert ⟨2500000, 0⟩ "uosmo" = .ok ⟨⟨25, 1⟩, "OSMO"⟩ := by decide +kernel
  obtain rfl : shown = ⟨⟨25, 1⟩, "OSMO"⟩ := Except.ok.inj (inList.symm.trans value)
  exact ⟨inList, inStore⟩

end

end TaxLedger.Denom
