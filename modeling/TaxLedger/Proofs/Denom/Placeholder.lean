import Mathlib.Data.List.Find
import TaxLedger.Proofs.Denom.Display

/-!
Placeholders for denominations of which nothing but the base is known. A placeholder has no units, and a
base goes before the names and aliases of units: what it changes is the conversion of the names that its
base takes from a unit, which is lost, and nothing else (`convert_changed_iff`). Units and aliases
whose names turn up as denominations are therefore not safe (`placeholder_takes_unit`).
-/

namespace TaxLedger.Denom

variable {r later : Rows} {k : Known} {id : Int} {base name denom : String} {u : UnitRow} {d : DenomRow}

/-- The row of a denomination of which nothing but the base is known. -/
def placeholder (id : Int) (base : String) : DenomRow := { id, base }

/-- The rows `later` are those of `r` and, anywhere among them, a placeholder for a base that was not
there, under an id that no unit refers to. -/
structure Rows.Gains (r : Rows) (id : Int) (base : String) (later : Rows) : Prop where
  denoms : ∃ front back, r.denoms = front ++ back ∧ later.denoms = front ++ placeholder id base :: back
  units : later.units = r.units
  aliases : later.aliases = r.aliases
  absent : ∀ d ∈ r.denoms, d.base ≠ base
  unused : ∀ u ∈ r.units, u.denomId ≠ id

/-- Ids and names that are each used once, as the store keeps them. -/
structure Rows.Distinct (r : Rows) : Prop where
  denoms : (r.denoms.map (·.id)).Nodup
  bases : (r.denoms.map (·.base)).Nodup
  units : (r.units.map (·.id)).Nodup
  names : (r.units.map (·.name)).Nodup
  aliases : (r.aliases.map (·.id)).Nodup
  otherNames : (r.aliases.map (·.name)).Nodup

/-! ### Look-ups among the rows -/

/-- A name that is no base is shown if it names a unit, or is an alias of one, whose denomination is
there. -/
theorem Rows.display?_isSome_iff (absent : r.denom? name = none) :
    (∃ shown, r.display? name = some shown) ↔ ∃ u d, r.unit? name = some u ∧ r.denomOf? u = some d := by
  rw [display?_of_unit absent]
  constructor
  · rintro ⟨shown, found⟩
    obtain ⟨u, named, found⟩ := Option.bind_eq_some_iff.mp found
    obtain ⟨d, owner, _⟩ := Option.bind_eq_some_iff.mp found
    exact ⟨u, d, named, owner⟩
  · rintro ⟨u, d, named, owner⟩
    obtain ⟨shown, counted⟩ := shownFrom?_isSome (denomOf?_mem (unit?_mem named) owner)
    exact ⟨shown, by simp [named, owner, counted]⟩

namespace Rows.Gains
variable (gains : r.Gains id base later)
include gains

theorem denom?_base : later.denom? base = some (placeholder id base) := by
  obtain ⟨front, back, before, after⟩ := gains.denoms
  have absent : back.reverse.find? (·.base == base) = none := by
    rw [List.find?_eq_none]
    intro d member
    have known : d ∈ r.denoms := before ▸ List.mem_append_right front (List.mem_reverse.mp member)
    simpa using gains.absent d known
  rw [Rows.denom?, findLast?, after]
  simp [absent, placeholder]

theorem denom?_other (other : name ≠ base) : later.denom? name = r.denom? name := by
  obtain ⟨front, back, before, after⟩ := gains.denoms
  have apart : (base == name) = false := by simpa using Ne.symm other
  rw [Rows.denom?, Rows.denom?, findLast?, findLast?, before, after]
  simp [placeholder, apart]

theorem denom?_absent : r.denom? base = none := by
  rw [Rows.denom?, findLast?, List.find?_eq_none]
  intro d member
  simpa using gains.absent d (List.mem_reverse.mp member)

theorem unitsOf : later.unitsOf d = r.unitsOf d := by
  rw [Rows.unitsOf, Rows.unitsOf, gains.units]

theorem unit? : later.unit? name = r.unit? name := by
  have owner : later.unitOf? = r.unitOf? := by
    funext a
    rw [Rows.unitOf?, Rows.unitOf?, gains.units]
  rw [Rows.unit?, Rows.unit?, gains.units, gains.aliases, owner]

theorem denomOf? (member : u ∈ r.units) : later.denomOf? u = r.denomOf? u := by
  obtain ⟨front, back, before, after⟩ := gains.denoms
  have unused : ¬id = u.denomId := Ne.symm (gains.unused u member)
  have skipped : later.denomOf? u =
      r.denoms.find? fun d => d.id == u.denomId && later.denom? d.base == some d := by
    simp [Rows.denomOf?, after, before, placeholder, unused]
  rw [skipped, Rows.denomOf?]
  refine List.find?_congr fun d known => ?_
  rw [gains.denom?_other (gains.absent d known)]

theorem baseUnit? : later.baseUnit? d = r.baseUnit? d := by
  rw [Rows.baseUnit?, Rows.baseUnit?, gains.unitsOf]

theorem shownFrom? : later.shownFrom? d u = r.shownFrom? d u := by
  rw [Rows.shownFrom?, Rows.shownFrom?, Rows.displayUnit?, Rows.displayUnit?, gains.unitsOf]

theorem display?_base : later.display? base = none := by
  -- The base is found, but under an id that no unit has.
  have bare : r.unitsOf (placeholder id base) = [] := by
    rw [Rows.unitsOf, List.filter_eq_nil_iff]
    intro u member
    simpa [placeholder] using gains.unused u member
  have unitless : r.baseUnit? (placeholder id base) = none := by
    rw [Rows.baseUnit?, bare]
    rfl
  rw [Rows.display?_of_base gains.denom?_base, gains.baseUnit?, unitless]
  rfl

theorem display?_other (other : name ≠ base) : later.display? name = r.display? name := by
  have bases := gains.denom?_other other
  cases found : r.denom? name with
  | some d =>
    rw [Rows.display?_of_base (bases.trans found), Rows.display?_of_base found, gains.baseUnit?]
    simp only [gains.shownFrom?]
  | none =>
    rw [Rows.display?_of_unit (bases.trans found), Rows.display?_of_unit found, gains.unit?]
    cases named : r.unit? name with
    | none => rfl
    | some u => simp only [Option.bind_some, gains.denomOf? (Rows.unit?_mem named), gains.shownFrom?]

end Rows.Gains

/-! ### Conversions -/

namespace Known

/-- Whether the conversion of a denomination comes down to what the rows have under a name. -/
def LooksUp (k : Known) (name denom : String) : Prop :=
  denom.startsWith poolShareStart = false ∧ k.catalog.find? name = none ∧ lookupName denom = name

theorem display?_of_looksUp (looksUp : k.LooksUp name denom) : k.display? denom = k.rows.display? name := by
  obtain ⟨share, unlisted, rfl⟩ := looksUp
  rw [display?, share]
  simp only [unlisted]
  rfl

theorem display?_elsewhere (elsewhere : ¬k.LooksUp base denom)
    (same : ∀ name, name ≠ base → later.display? name = k.rows.display? name) :
    ({ k with rows := later } : Known).display? denom = k.display? denom := by
  rw [display?, display?]
  split
  · rfl
  · rename_i share
    dsimp only
    split
    · rfl
    · rename_i unlisted
      refine same _ fun named => elsewhere ⟨by simpa using share, ?_, named⟩
      rwa [named] at unlisted

end Known

/-- A placeholder changes a conversion exactly if it comes down to the rows under the placeholder's base
and that base names a unit, or is an alias of one, whose denomination is there; the conversion then
fails. -/
theorem convert_changed_iff (gains : k.rows.Gains id base later) (amount : Decimal) (denom : String) :
    let after : Known := { k with rows := later }
    (after.convert amount denom ≠ k.convert amount denom ↔ k.LooksUp base denom ∧
      ∃ u d, k.rows.unit? base = some u ∧ k.rows.denomOf? u = some d) ∧
    (after.convert amount denom ≠ k.convert amount denom → after.convert amount denom = .error ⟨denom⟩) := by
  intro after
  by_cases looksUp : k.LooksUp base denom
  · have lost : after.convert amount denom = .error ⟨denom⟩ := by
      have unknown : after.display? denom = none :=
        (Known.display?_of_looksUp (k := after) looksUp).trans gains.display?_base
      exact Known.convert_of_none unknown
    refine ⟨?_, fun _ => lost⟩
    rw [lost, ← Rows.display?_isSome_iff gains.denom?_absent, ← Known.display?_of_looksUp looksUp]
    cases known : k.display? denom with
    | none => simp [Known.convert_of_none known]
    | some d => simp [looksUp, Known.convert, known]
  · have same : after.convert amount denom = k.convert amount denom := by
      rw [Known.convert, Known.convert, Known.display?_elsewhere looksUp fun name => gains.display?_other]
    simp [same, looksUp]

/-! ### A unit whose name turns up as a denomination -/

def ion : Rows where
  denoms := [⟨1, "uion", some "Ion", some "ION"⟩]
  units := [⟨10, 1, 0, "uion"⟩, ⟨11, 1, 6, "ion"⟩]
  aliases := [⟨1, 10, "micro-ion"⟩]

def ionLater : Rows := { ion with denoms := ion.denoms ++ [placeholder 2 "ion"] }

theorem ion_gains : ion.Gains 2 "ion" ionLater where
  denoms := ⟨ion.denoms, [], rfl, rfl⟩
  units := rfl
  aliases := rfl
  absent := by decide
  unused := by decide

/-- The placeholder for the larger unit takes its name, and leaves the alias of the smaller one. -/
theorem convert_changed_iff_of_ion :
    let before : Known := { rows := ion }
    let after : Known := { rows := ionLater }
    after.convert ⟨3, 0⟩ "ion" = .error ⟨"ion"⟩ ∧
      after.convert ⟨3, 0⟩ "micro-ion" = before.convert ⟨3, 0⟩ "micro-ion" := by
  intro before after
  have taken := convert_changed_iff (k := before) ion_gains ⟨3, 0⟩ "ion"
  have left := convert_changed_iff (k := before) ion_gains ⟨3, 0⟩ "micro-ion"
  constructor
  · exact taken.2 (taken.1.mpr ⟨⟨by decide, rfl, by decide⟩, _, _, rfl, rfl⟩)
  · refine not_not.mp (left.1.not.mpr ?_)
    rintro ⟨⟨_, _, named⟩, _⟩
    exact absurd named (by decide +kernel)

/-- A placeholder may break a conversion, even where all rows have ids and names of their own. -/
theorem placeholder_takes_unit :
    ionLater.Distinct ∧ ion.Gains 2 "ion" ionLater ∧
      ({ rows := ion } : Known).convert ⟨3, 0⟩ "ion" = .ok ⟨⟨3, 0⟩, "ION"⟩ ∧
        ({ rows := ionLater } : Known).convert ⟨3, 0⟩ "ion" = .error ⟨"ion"⟩ :=
  ⟨⟨by decide, by decide, by decide, by decide, by decide, by decide⟩, ion_gains, rfl, rfl⟩

end TaxLedger.Denom
