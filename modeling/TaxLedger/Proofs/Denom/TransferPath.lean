import Mathlib.Data.List.TakeWhile
import TaxLedger.Proofs.Denom.Stored

/-!
Denominations that came over a channel. Behind a transfer path only the part after the last slash is
looked up, which cuts a base with slashes of its own: the path is transparent exactly where the base has
no slash or is shown as its last part is (`path_transparent_iff`), and a coin of one base may be shown as
a coin of another (`path_names_other_coin`).
-/

namespace TaxLedger.Denom

/-- The base of a denomination that came over a channel, behind its path. -/
def overChannel (channel base : String) : String := transferStart ++ channel ++ "/" ++ base

def lastPart (name : String) : String :=
  String.ofList (name.toList.reverse.takeWhile (· != '/')).reverse

/-! ### Last parts -/

theorem slash_notMem_lastPart (name : String) : '/' ∉ (lastPart name).toList := by
  intro member
  rw [lastPart, String.toList_ofList, List.mem_reverse] at member
  have kept := List.mem_takeWhile_imp member
  simp at kept

theorem lastPart_of_whole {name : String} (whole : '/' ∉ name.toList) : lastPart name = name := by
  have all : name.toList.reverse.takeWhile (· != '/') = name.toList.reverse := by
    rw [List.takeWhile_eq_self_iff]
    intro c member
    have apart : c ≠ '/' := fun same => whole (same ▸ List.mem_reverse.mp member)
    simpa using apart
  rw [lastPart, all, List.reverse_reverse, String.ofList_toList]

theorem lastPart_append (front name : String) : lastPart (front ++ "/" ++ name) = lastPart name := by
  have parts : (front ++ "/" ++ name).toList.reverse =
      name.toList.reverse ++ '/' :: front.toList.reverse := by
    simp [String.toList_append]
  rw [lastPart, lastPart, parts, List.takeWhile_append]
  split
  · rename_i level
    have all := (List.takeWhile_prefix (· != '/')).eq_of_length level
    simp [all]
  · rfl

/-! ### Names that are looked up -/

theorem startsWith_eq_false_of_whole {name start : String} (whole : '/' ∉ name.toList)
    (slash : '/' ∈ start.toList) : name.startsWith start = false := by
  rw [String.startsWith_string_eq_false_iff]
  intro front
  exact whole (front.subset slash)

theorem lookupName_overChannel (channel base : String) :
    lookupName (overChannel channel base) = lastPart base := by
  have path : (overChannel channel base).startsWith transferStart = true := by
    rw [String.startsWith_string_iff, overChannel]
    simp only [String.toList_append, List.append_assoc]
    exact List.prefix_append _ _
  rw [lookupName, if_pos path]
  exact lastPart_append (transferStart ++ channel) base

theorem lookupName_lastPart (name : String) : lookupName (lastPart name) = lastPart name := by
  have plain : (lastPart name).startsWith transferStart = false :=
    startsWith_eq_false_of_whole (slash_notMem_lastPart name) (by decide)
  rw [lookupName, if_neg (by simp [plain])]

theorem overChannel_not_share (channel base : String) :
    (overChannel channel base).startsWith poolShareStart = false := by
  rw [String.startsWith_string_eq_false_iff]
  rintro ⟨rest, equal⟩
  simp [overChannel, transferStart, poolShareStart, String.toList_append] at equal

namespace Known
variable {k : Known} {denom denom' : String}

theorem display?_overChannel (k : Known) (channel base : String) :
    k.display? (overChannel channel base) = k.display? (lastPart base) := by
  have plain : (lastPart base).startsWith poolShareStart = false :=
    startsWith_eq_false_of_whole (slash_notMem_lastPart base) (by decide)
  unfold display?
  simp only [overChannel_not_share, plain, lookupName_overChannel, lookupName_lastPart,
    Bool.false_eq_true, if_false]

/-- Two denominations are converted alike, for all amounts, exactly if they are shown alike. -/
theorem converts_alike_iff :
    (∀ amount, (k.convert amount denom).toOption = (k.convert amount denom').toOption) ↔
      k.display? denom = k.display? denom' := by
  unfold convert
  constructor
  · intro alike
    have one := alike ⟨1, 0⟩
    cases known : k.display? denom with
    | none =>
      cases known' : k.display? denom' with
      | none => rfl
      | some d' => simp [known, known', Except.toOption] at one
    | some d =>
      cases known' : k.display? denom' with
      | none => simp [known, known', Except.toOption] at one
      | some d' =>
        simp only [known, known', Except.toOption, Option.some.injEq, Display.apply_one] at one
        cases d
        cases d'
        simpa using one
  · intro same amount
    rw [same]
    cases k.display? denom' with
    | none => rfl
    | some d => rfl

end Known

/-! ### Transparent paths -/

/-- A denomination that came over a channel is converted as the last part of its base is. It is converted
as its base is, for all amounts, exactly if the base has no slash or is shown as its last part is. -/
theorem path_transparent_iff (k : Known) (channel base : String) :
    (∀ amount, (k.convert amount (overChannel channel base)).toOption =
        (k.convert amount (lastPart base)).toOption) ∧
      ((∀ amount, (k.convert amount (overChannel channel base)).toOption =
          (k.convert amount base).toOption) ↔
        '/' ∉ base.toList ∨ k.display? base = k.display? (lastPart base)) := by
  refine ⟨Known.converts_alike_iff.mpr (k.display?_overChannel channel base), ?_⟩
  rw [Known.converts_alike_iff, k.display?_overChannel channel base]
  constructor
  · intro same
    exact .inr same.symm
  · rintro (whole | same)
    · rw [lastPart_of_whole whole]
    · exact same.symm

/-- A coin that a creator gave a name with slashes, and a coin with the last part of that name. -/
def namesakes : Catalog := Catalog.ofAssets [
  { base := "factory/osmo1c/uxyz", symbol := "XYZ",
    units := [⟨"factory/osmo1c/uxyz", 0, []⟩, ⟨"xyz", 6, []⟩] },
  { base := "uxyz", symbol := "OTHER", units := [⟨"uxyz", 0, []⟩, ⟨"other", 3, []⟩] }]

/-- Over a channel a created coin is shown as its namesake, without any error. -/
theorem path_names_other_coin :
    let k : Known := { catalog := namesakes }
    '/' ∉ "channel-0".toList ∧ "factory/osmo1c/uxyz".startsWith transferStart = false ∧
      "factory/osmo1c/uxyz".startsWith poolShareStart = false ∧
      k.convert ⟨2500000, 0⟩ "factory/osmo1c/uxyz" = .ok ⟨⟨25, 1⟩, "XYZ"⟩ ∧
      k.convert ⟨2500000, 0⟩ (overChannel "channel-0" "factory/osmo1c/uxyz") =
        .ok ⟨⟨25, -2⟩, "OTHER"⟩ := by
  decide +kernel

end TaxLedger.Denom
