import Mathlib.Data.List.Nodup
import TaxLedger.Proofs.Denom.Placeholder

/-!
The rows of the store come in no particular order. Another order never changes the value of a conversion,
nor whether there is one; it changes the symbol exactly where a denomination without a symbol of its own
has several largest units, since the last of them lends it its name (`reordered_alike_iff`).
-/

namespace TaxLedger.Denom

/-- The same rows, each table in an order of its own. -/
structure Rows.Reordered (r later : Rows) : Prop where
  denoms : r.denoms.Perm later.denoms
  units : r.units.Perm later.units
  aliases : r.aliases.Perm later.aliases

/-- Whether a denomination takes its symbol from one of several units that are equally large. -/
structure Rows.Tied (r : Rows) (d : DenomRow) : Prop where
  unnamed : d.symbol.getD "" = "" ∨ d.symbol.getD "" = "UNKNOWN"
  units : ∃ u ∈ r.unitsOf d, ∃ v ∈ r.unitsOf d, u ≠ v ∧
    ∀ w ∈ r.unitsOf d, w.exponent ≤ u.exponent ∧ w.exponent ≤ v.exponent

/-! ### Look-ups in another order -/

section
variable {α κ : Type} [BEq κ] [LawfulBEq κ] {key : α → κ} {xs ys : List α}

theorem filter_key_of_perm (distinct : (xs.map key).Nodup) (reordered : xs.Perm ys) (k : κ) :
    xs.filter (key · == k) = ys.filter (key · == k) := by
  have same : ∀ x y, x ∈ xs.filter (key · == k) → y ∈ ys.filter (key · == k) → x = y := by
    intro x y found found'
    obtain ⟨member, named⟩ := List.mem_filter.mp found
    obtain ⟨member', named'⟩ := List.mem_filter.mp found'
    apply List.inj_on_of_nodup_map distinct member (reordered.mem_iff.mpr member')
    exact (eq_of_beq named).trans (eq_of_beq named').symm
  -- Rows with one key are one row, so that every order of them is the same.
  apply @List.Perm.eq_of_pairwise _ (fun _ _ => True) _ _ _ _ _ (reordered.filter _)
  · exact fun x y found found' _ _ => same x y found found'
  · exact List.pairwise_of_forall fun _ _ => trivial
  · exact List.pairwise_of_forall fun _ _ => trivial

theorem find?_key_of_perm (distinct : (xs.map key).Nodup) (reordered : xs.Perm ys) (k : κ) :
    xs.find? (key · == k) = ys.find? (key · == k) := by
  rw [← List.head?_filter, ← List.head?_filter, filter_key_of_perm distinct reordered]

theorem findLast?_key_of_perm (distinct : (xs.map key).Nodup) (reordered : xs.Perm ys) (k : κ) :
    findLast? (key · == k) xs = findLast? (key · == k) ys := by
  have turned : xs.reverse.Perm ys.reverse :=
    (List.reverse_perm xs).trans (reordered.trans (List.reverse_perm ys).symm)
  have distinct' : (xs.reverse.map key).Nodup :=
    ((List.reverse_perm xs).map key).nodup_iff.mpr distinct
  exact find?_key_of_perm distinct' turned k

end

/-! ### Scans in another order -/

section
variable {α : Type} {key : α → Int} {xs ys : List α}

/-- What a scan ends with has a key that is best among all, and there is only one such key. -/
theorem scan_key_of_perm {scan : List α → Option α} {better : Int → Int → Prop}
    (antisymm : ∀ m n, better m n → better n m → m = n)
    (filled : ∀ xs, xs ≠ [] → ∃ best, scan xs = some best)
    (best : ∀ xs x, scan xs = some x → x ∈ xs ∧ ∀ y ∈ xs, better (key x) (key y))
    (reordered : xs.Perm ys) : (scan xs).map key = (scan ys).map key := by
  by_cases empty : xs = []
  · rw [empty] at reordered ⊢
    rw [List.nil_perm.mp reordered]
  · have remains : ys ≠ [] := fun none => empty (List.perm_nil.mp (none ▸ reordered))
    obtain ⟨x, found⟩ := filled xs empty
    obtain ⟨y, found'⟩ := filled ys remains
    obtain ⟨member, beats⟩ := best xs x found
    obtain ⟨member', beats'⟩ := best ys y found'
    have same : key x = key y := by
      apply antisymm
      · exact beats y (reordered.mem_iff.mpr member')
      · exact beats' x (reordered.mem_iff.mp member)
    rw [found, found', Option.map_some, Option.map_some, same]

theorem lastGreatest?_key_of_perm (reordered : xs.Perm ys) :
    (lastGreatest? key xs).map key = (lastGreatest? key ys).map key :=
  scan_key_of_perm (fun _ _ above below => Int.le_antisymm below above)
    (fun _ => lastGreatest?_isSome) (fun _ _ => lastGreatest?_some) reordered

theorem firstLeast?_key_of_perm (reordered : xs.Perm ys) :
    (firstLeast? key xs).map key = (firstLeast? key ys).map key :=
  scan_key_of_perm (fun _ _ below above => Int.le_antisymm below above)
    (fun _ => firstLeast?_isSome) (fun _ _ => firstLeast?_some) reordered

/-- A largest item wins if it stands last. -/
theorem lastGreatest?_concat {x : α} (greatest : ∀ y ∈ xs, key y ≤ key x) :
    lastGreatest? key (xs ++ [x]) = some x := by
  cases xs with
  | nil => rfl
  | cons item rest =>
    obtain ⟨best, found⟩ : ∃ best, lastGreatest? key (item :: rest) = some best :=
      lastGreatest?_isSome (List.cons_ne_nil item rest)
    have kept : ¬key x < key best := Int.not_lt.mpr (greatest best (lastGreatest?_some found).1)
    rw [lastGreatest?, Option.some.injEq] at found
    rw [List.cons_append, lastGreatest?, List.foldl_append, found, List.foldl_cons, if_neg kept,
      List.foldl_nil]

end

/-! ### Rows that are used once -/

namespace Rows.Distinct
variable {r : Rows} (distinct : r.Distinct)
include distinct

theorem denom?_of_mem {d : DenomRow} (member : d ∈ r.denoms) : r.denom? d.base = some d := by
  unfold Rows.denom?
  cases found : findLast? (·.base == d.base) r.denoms with
  | none =>
    have missed := List.find?_eq_none.mp found d (List.mem_reverse.mpr member)
    exact absurd (beq_self_eq_true d.base) missed
  | some other =>
    obtain ⟨inside, named⟩ := mem_of_findLast? found
    rw [List.inj_on_of_nodup_map distinct.bases inside member (eq_of_beq named)]

/-- Without two rows for one base, none is out of use. -/
theorem denomOf?_eq (u : UnitRow) : r.denomOf? u = r.denoms.find? (·.id == u.denomId) := by
  unfold Rows.denomOf?
  apply List.find?_congr
  intro d member
  rw [distinct.denom?_of_mem member, beq_self_eq_true, Bool.and_true]

end Rows.Distinct

/-! ### What the rows show -/

namespace Rows
variable {r later : Rows} {d : DenomRow} {u : UnitRow} {name : String} {exponent : Int}

def source? (r : Rows) (name : String) : Option (DenomRow × Int) :=
  (r.resolve? name).map fun (d, u) => (d, u.exponent)

def shownAt? (r : Rows) (d : DenomRow) (exponent : Int) : Option Display :=
  (r.displayUnit? d).map fun highest =>
    ⟨highest.exponent - exponent, symbolOr (d.symbol.getD "") highest.name⟩

theorem display?_eq (r : Rows) (name : String) :
    r.display? name = (r.source? name).bind fun (d, exponent) => r.shownAt? d exponent := by
  unfold display? source?
  cases r.resolve? name with
  | none => rfl
  | some found =>
    obtain ⟨d, u⟩ := found
    cases highest : r.displayUnit? d <;> simp [shownAt?, highest]

namespace Reordered
variable (reordered : r.Reordered later)
include reordered

theorem distinct (distinct : r.Distinct) : later.Distinct where
  denoms := (reordered.denoms.map _).nodup_iff.mp distinct.denoms
  bases := (reordered.denoms.map _).nodup_iff.mp distinct.bases
  units := (reordered.units.map _).nodup_iff.mp distinct.units
  names := (reordered.units.map _).nodup_iff.mp distinct.names
  aliases := (reordered.aliases.map _).nodup_iff.mp distinct.aliases
  otherNames := (reordered.aliases.map _).nodup_iff.mp distinct.otherNames

theorem unitsOf (d : DenomRow) : (r.unitsOf d).Perm (later.unitsOf d) := reordered.units.filter _

theorem denom? (distinct : r.Distinct) (base : String) : later.denom? base = r.denom? base :=
  (findLast?_key_of_perm distinct.bases reordered.denoms base).symm

theorem unit? (distinct : r.Distinct) (name : String) : later.unit? name = r.unit? name := by
  have owners : later.unitOf? = r.unitOf? := by
    funext a
    exact (findLast?_key_of_perm distinct.units reordered.units a.unitId).symm
  unfold Rows.unit?
  rw [findLast?_key_of_perm distinct.names reordered.units,
    filter_key_of_perm distinct.otherNames reordered.aliases, owners]

theorem denomOf? (distinct : r.Distinct) (u : UnitRow) : later.denomOf? u = r.denomOf? u := by
  rw [distinct.denomOf?_eq, (reordered.distinct distinct).denomOf?_eq]
  exact (find?_key_of_perm distinct.denoms reordered.denoms u.denomId).symm

theorem baseUnit? (distinct : r.Distinct) (d : DenomRow) :
    (later.baseUnit? d).map (·.exponent) = (r.baseUnit? d).map (·.exponent) := by
  have names : ((r.unitsOf d).map (·.name)).Nodup :=
    distinct.names.sublist (List.filter_sublist.map _)
  unfold Rows.baseUnit?
  rw [find?_key_of_perm names (reordered.unitsOf d)]
  cases (later.unitsOf d).find? (·.name == d.base) with
  | some u => rfl
  | none => exact (firstLeast?_key_of_perm (reordered.unitsOf d)).symm

theorem displayUnit? (d : DenomRow) :
    (later.displayUnit? d).map (·.exponent) = (r.displayUnit? d).map (·.exponent) :=
  (lastGreatest?_key_of_perm (reordered.unitsOf d)).symm

theorem source? (distinct : r.Distinct) (name : String) : later.source? name = r.source? name := by
  unfold Rows.source? Rows.resolve?
  rw [reordered.denom? distinct]
  cases r.denom? name with
  | some d =>
    have base := congrArg (Option.map fun exponent => (d, exponent)) (reordered.baseUnit? distinct d)
    simp only [Option.map_map] at base ⊢
    exact base
  | none =>
    rw [reordered.unit? distinct]
    simp only [reordered.denomOf? distinct]

theorem shownAt?_exponent (d : DenomRow) (exponent : Int) :
    (later.shownAt? d exponent).map (·.exponent) = (r.shownAt? d exponent).map (·.exponent) := by
  have highest := congrArg (Option.map fun largest => largest - exponent) (reordered.displayUnit? d)
  simp only [Rows.shownAt?, Option.map_map] at highest ⊢
  exact highest

/-- Another order never moves the point. -/
theorem display?_exponent (distinct : r.Distinct) (name : String) :
    (later.display? name).map (·.exponent) = (r.display? name).map (·.exponent) := by
  rw [display?_eq, display?_eq, reordered.source? distinct]
  cases r.source? name with
  | none => rfl
  | some found => exact reordered.shownAt?_exponent found.1 found.2

theorem shownAt?_of_not_tied (untied : ¬r.Tied d) (exponent : Int) :
    later.shownAt? d exponent = r.shownAt? d exponent := by
  have same := reordered.displayUnit? d
  unfold Rows.shownAt?
  cases before : r.displayUnit? d with
  | none =>
    rw [before, Option.map_none, Option.map_eq_none_iff] at same
    rw [same]
  | some u =>
    rw [before, Option.map_some] at same
    obtain ⟨v, after, level⟩ := Option.map_eq_some_iff.mp same
    obtain ⟨member, greatest⟩ := lastGreatest?_some before
    obtain ⟨member', greatest'⟩ := lastGreatest?_some after
    have symbols : symbolOr (d.symbol.getD "") v.name = symbolOr (d.symbol.getD "") u.name := by
      by_cases unnamed : d.symbol.getD "" = "" ∨ d.symbol.getD "" = "UNKNOWN"
      · by_cases one : u = v
        · rw [one]
        · refine absurd ⟨unnamed, u, member, v, ?_, one, fun w inside => ?_⟩ untied
          · exact (reordered.unitsOf d).mem_iff.mpr member'
          · exact ⟨greatest w inside, greatest' w ((reordered.unitsOf d).mem_iff.mp inside)⟩
      · simp [symbolOr, unnamed]
    rw [after, Option.map_some, Option.map_some, symbols, level]

theorem display?_of_not_tied (distinct : r.Distinct)
    (untied : ∀ d exponent, r.source? name = some (d, exponent) → ¬r.Tied d) :
    later.display? name = r.display? name := by
  rw [display?_eq, display?_eq, reordered.source? distinct]
  cases found : r.source? name with
  | none => rfl
  | some meant => exact reordered.shownAt?_of_not_tied (untied meant.1 meant.2 found) meant.2

end Reordered

/-- Each of the largest units is the one that is shown in some order. -/
theorem exists_displayUnit? (member : u ∈ r.unitsOf d)
    (greatest : ∀ w ∈ r.unitsOf d, w.exponent ≤ u.exponent) :
    ∃ later, r.Reordered later ∧ later.displayUnit? d = some u := by
  obtain ⟨stored, owned⟩ := List.mem_filter.mp member
  refine ⟨{ r with units := r.units.erase u ++ [u] }, ⟨.refl _, ?_, .refl _⟩, ?_⟩
  · exact (List.perm_cons_erase stored).trans (List.perm_append_singleton u _).symm
  · have last : (r.units.erase u ++ [u]).filter (·.denomId == d.id) =
        (r.units.erase u).filter (·.denomId == d.id) ++ [u] := by
      simp [eq_of_beq owned]
    unfold displayUnit? unitsOf
    rw [last]
    apply lastGreatest?_concat
    intro w inside
    obtain ⟨kept, own⟩ := List.mem_filter.mp inside
    exact greatest w (List.mem_filter.mpr ⟨List.mem_of_mem_erase kept, own⟩)

theorem shownAt?_unnamed (unnamed : d.symbol.getD "" = "" ∨ d.symbol.getD "" = "UNKNOWN")
    (highest : r.displayUnit? d = some u) :
    r.shownAt? d exponent = some ⟨u.exponent - exponent, u.name⟩ := by
  simp [shownAt?, highest, symbolOr, unnamed]

/-- A tie is shown in two ways. -/
theorem Tied.two_displays (tied : r.Tied d) (distinct : r.Distinct)
    (found : r.source? name = some (d, exponent)) :
    ∃ later later', r.Reordered later ∧ r.Reordered later' ∧
      ∃ shown shown', later.display? name = some shown ∧ later'.display? name = some shown' ∧
        shown.symbol ≠ shown'.symbol := by
  obtain ⟨unnamed, u, member, v, member', apart, greatest⟩ := tied
  obtain ⟨later, reordered, first⟩ := exists_displayUnit? member fun w inside => (greatest w inside).1
  obtain ⟨later', reordered', second⟩ := exists_displayUnit? member' fun w inside => (greatest w inside).2
  refine ⟨later, later', reordered, reordered', ⟨u.exponent - exponent, u.name⟩,
    ⟨v.exponent - exponent, v.name⟩, ?_, ?_, ?_⟩
  · rw [display?_eq, reordered.source? distinct, found]
    exact shownAt?_unnamed unnamed first
  · rw [display?_eq, reordered'.source? distinct, found]
    exact shownAt?_unnamed unnamed second
  · intro alike
    have stored := (List.mem_filter.mp member).1
    have stored' := (List.mem_filter.mp member').1
    exact apart (List.inj_on_of_nodup_map distinct.names stored stored' alike)

end Rows

/-! ### Conversions -/

namespace Known
variable {k other : Known} {later : Rows} {denom name : String}

theorem convert_value_congr
    (same : (k.display? denom).map (·.exponent) = (other.display? denom).map (·.exponent))
    (amount : Decimal) :
    (k.convert amount denom).map (·.value) = (other.convert amount denom).map (·.value) := by
  unfold convert
  cases known : k.display? denom with
  | none =>
    rw [known, Option.map_none, eq_comm, Option.map_eq_none_iff] at same
    rw [same]
  | some d =>
    rw [known, Option.map_some, eq_comm] at same
    obtain ⟨d', found, places⟩ := Option.map_eq_some_iff.mp same
    rw [found]
    show Except.ok (d.apply amount).value = Except.ok (d'.apply amount).value
    rw [Display.apply, Display.apply, places]

theorem convert_congr (same : k.display? denom = other.display? denom) (amount : Decimal) :
    k.convert amount denom = other.convert amount denom := by
  unfold convert
  rw [same]

/-- A conversion that does not come down to the rows does not see them. -/
theorem display?_unseen (unseen : ∀ name, ¬k.LooksUp name denom) :
    ({ k with rows := later } : Known).display? denom = k.display? denom := by
  unfold display?
  split
  · rfl
  · rename_i share
    cases unlisted : k.catalog.find? (lookupName denom) with
    | some a => simp [unlisted]
    | none => exact absurd ⟨by simpa using share, unlisted, rfl⟩ (unseen (lookupName denom))

end Known

/-- Another order of the rows never changes the value of a conversion or its error. It never changes the
symbol either exactly if the denomination that is found in the rows, if one is found there, has a symbol
of its own or only one largest unit. -/
theorem reordered_alike_iff {k : Known} (distinct : k.rows.Distinct) (denom : String) :
    (∀ later, k.rows.Reordered later → ∀ amount,
      (({ k with rows := later } : Known).convert amount denom).map (·.value) =
        (k.convert amount denom).map (·.value)) ∧
    ((∀ later, k.rows.Reordered later → ∀ amount,
        ({ k with rows := later } : Known).convert amount denom = k.convert amount denom) ↔
      ∀ name d u, k.LooksUp name denom → k.rows.resolve? name = some (d, u) → ¬k.rows.Tied d) := by
  by_cases seen : ∃ name, k.LooksUp name denom
  · obtain ⟨name, looksUp⟩ := seen
    have rows (later : Rows) :
        ({ k with rows := later } : Known).display? denom = later.display? name :=
      Known.display?_of_looksUp (k := { k with rows := later }) looksUp
    have own : k.display? denom = k.rows.display? name := Known.display?_of_looksUp looksUp
    constructor
    · intro later reordered amount
      apply Known.convert_value_congr
      rw [rows, own, reordered.display?_exponent distinct]
    · constructor
      · intro alike name' d u looksUp' found tied
        obtain rfl : name' = name := looksUp'.2.2.symm.trans looksUp.2.2
        have meant : k.rows.source? name' = some (d, u.exponent) := by
          rw [Rows.source?, found, Option.map_some]
        obtain ⟨later, later', reordered, reordered', shown, shown', first, second, differ⟩ :=
          tied.two_displays distinct meant
        have same := (alike later reordered ⟨1, 0⟩).trans (alike later' reordered' ⟨1, 0⟩).symm
        rw [Known.convert, Known.convert, rows, rows, first, second] at same
        exact differ (congrArg Shown.symbol (Except.ok.inj same))
      · intro untied later reordered amount
        apply Known.convert_congr
        rw [rows, own]
        apply reordered.display?_of_not_tied distinct
        intro d exponent meant
        obtain ⟨⟨d', u⟩, found, same⟩ := Option.map_eq_some_iff.mp meant
        obtain ⟨rfl, -⟩ := Prod.mk.inj same
        exact untied name d' u looksUp found
  · have unseen (later : Rows) : ({ k with rows := later } : Known).display? denom = k.display? denom :=
      Known.display?_unseen fun name looksUp => seen ⟨name, looksUp⟩
    constructor
    · intro later _ amount
      rw [Known.convert_congr (unseen later)]
    · constructor
      · intro _ name _ _ looksUp
        exact absurd ⟨name, looksUp⟩ seen
      · intro _ later _ amount
        exact Known.convert_congr (unseen later) amount

/-! ### A name that several units lend -/

def dollarUnits : List UnitRow := [⟨10, 1, 0, "uusd"⟩, ⟨11, 1, 6, "usd"⟩, ⟨12, 1, 6, "dollar"⟩]

def dollar (symbol : Option String) : Rows where
  denoms := [⟨1, "uusd", none, symbol⟩]
  units := dollarUnits
  aliases := [⟨1, 11, "buck"⟩]

def dollarTurned (symbol : Option String) : Rows :=
  { dollar symbol with units := dollarUnits.drop 2 ++ dollarUnits.take 2 }

theorem dollar_distinct (symbol : Option String) : (dollar symbol).Distinct where
  denoms := List.nodup_singleton _
  bases := List.nodup_singleton _
  units := (by decide : (dollarUnits.map (·.id)).Nodup)
  names := (by decide : (dollarUnits.map (·.name)).Nodup)
  aliases := List.nodup_singleton _
  otherNames := List.nodup_singleton _

theorem dollar_reordered (symbol : Option String) : (dollar symbol).Reordered (dollarTurned symbol) where
  denoms := .refl _
  units := (by decide : dollarUnits.Perm (dollarUnits.drop 2 ++ dollarUnits.take 2))
  aliases := .refl _

/-- A symbol of its own keeps the conversion of an alias the same. -/
theorem reordered_alike_iff_of_dollar :
    ({ rows := dollarTurned (some "USD") } : Known).convert ⟨2500000, 0⟩ "buck" =
      ({ rows := dollar (some "USD") } : Known).convert ⟨2500000, 0⟩ "buck" := by
  have alike := reordered_alike_iff (k := { rows := dollar (some "USD") }) (dollar_distinct _) "buck"
  refine alike.2.mpr ?_ _ (dollar_reordered _) ⟨2500000, 0⟩
  rintro name d u ⟨_, _, rfl⟩ found ⟨unnamed, _⟩
  have meant : (dollar (some "USD")).resolve? (lookupName "buck") =
      some (⟨1, "uusd", none, some "USD"⟩, ⟨11, 1, 6, "usd"⟩) := by decide +kernel
  obtain ⟨rfl, rfl⟩ := Prod.mk.inj (Option.some.inj (meant.symm.trans found))
  exact absurd unnamed (by decide)

/-- Without a symbol, the order of the rows decides between the two names. -/
theorem order_names_dollar :
    (dollar none).Distinct ∧ (dollar none).Reordered (dollarTurned none) ∧
      ({ rows := dollar none } : Known).convert ⟨2500000, 0⟩ "uusd" = .ok ⟨⟨25, 1⟩, "dollar"⟩ ∧
        ({ rows := dollarTurned none } : Known).convert ⟨2500000, 0⟩ "uusd" = .ok ⟨⟨25, 1⟩, "usd"⟩ :=
  ⟨dollar_distinct _, dollar_reordered _, by decide +kernel, by decide +kernel⟩

end TaxLedger.Denom
