import TaxLedger.Config.Path

/-!
Settings at paths. Of two texts that are put at one path the later one counts (`write_write`).
-/

namespace TaxLedger.Config.Setting

theorem alterEntry_alterEntry (name : String) (f g : Setting → Setting) (v : Setting) :
    alterEntry name g (alterEntry name f v) = alterEntry name (g ∘ f) v := by
  unfold alterEntry
  dsimp only [entries]
  rw [Assoc.find?_insert, if_pos rfl, Option.getD_some, Assoc.insert_insert]
  rfl

def placeIn (index : Int) (length : Nat) : Int := if 0 ≤ index then index else length + index

section
variable {index : Int} {v : Setting}

theorem alterPlace_outside (outside : placeIn index v.items.length < 0) (f : Setting → Setting) :
    alterPlace index f v = v :=
  if_pos outside

theorem alterPlace_inside (inside : 0 ≤ placeIn index v.items.length) (f : Setting → Setting) :
    alterPlace index f v =
      .list ((v.items ++ List.replicate
        ((placeIn index v.items.length).toNat + 1 - v.items.length) unset).modify
          (placeIn index v.items.length).toNat f) :=
  if_neg (Int.not_lt.mpr inside)

/-- A list that is long enough for a place stays as long. -/
theorem alterPlace_list {items : List Setting} {length : Nat} (long : items.length = length)
    (inside : 0 ≤ placeIn index length) (enough : (placeIn index length).toNat < length)
    (f : Setting → Setting) :
    alterPlace index f (.list items) = .list (items.modify (placeIn index length).toNat f) := by
  subst long
  have none : (placeIn index items.length).toNat + 1 - items.length = 0 := by omega
  have whole := alterPlace_inside (v := .list items) inside f
  simp only [Setting.items, none, List.replicate_zero, List.append_nil] at whole
  exact whole

theorem alterPlace_alterPlace (index : Int) (f g : Setting → Setting) (v : Setting) :
    alterPlace index g (alterPlace index f v) = alterPlace index (g ∘ f) v := by
  rcases Int.lt_or_le (placeIn index v.items.length) 0 with outside | inside
  · rw [alterPlace_outside outside f, alterPlace_outside outside g, alterPlace_outside outside]
  · rw [alterPlace_inside inside f, alterPlace_inside inside]
    generalize longer : v.items ++ List.replicate
      ((placeIn index v.items.length).toNat + 1 - v.items.length) unset = items
    have length := congrArg List.length longer
    rw [List.length_append, List.length_replicate] at length
    -- A place from the end is in the list already, so that only a place from the start makes it longer.
    have same : placeIn index items.length = placeIn index v.items.length := by
      unfold placeIn at inside length ⊢
      by_cases front : 0 ≤ index
      · rw [if_pos front, if_pos front]
      · rw [if_neg front] at inside length
        rw [if_neg front, if_neg front]
        omega
    rw [← same] at inside ⊢
    rw [← List.modify_modify_eq]
    exact alterPlace_list (List.length_modify ..) inside (by omega) g

end

theorem write_write (text later : String) (path : Path) (v : Setting) :
    write (.text later) path (write (.text text) path v) = write (.text later) path v := by
  induction path generalizing v with
  | nil => simp only [write, merge]
  | cons step rest ih =>
    have same : write (.text later) rest ∘ write (.text text) rest = write (.text later) rest :=
      funext ih
    cases step with
    | name name =>
      simp only [write]
      rw [alterEntry_alterEntry, same]
    | place index =>
      simp only [write]
      rw [alterPlace_alterPlace, same]

end TaxLedger.Config.Setting
