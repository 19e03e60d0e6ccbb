/-!
# Sorted association lists

Values under names, one per name, in the order of the names. `insert` keeps the order, so two lists
with the same look-ups are the same list.
-/

namespace TaxLedger

abbrev Assoc (α : Type) := List (String × α)

namespace Assoc

variable {α : Type}

def find? (name : String) (entries : Assoc α) : Option α := List.lookup name entries

/-- Puts a value under `name`; a value that is there is replaced. -/
def insert (name : String) (value : α) : Assoc α → Assoc α
  | [] => [(name, value)]
  | (k, v) :: rest =>
    if name = k then (name, value) :: rest
    else if name < k then (name, value) :: (k, v) :: rest
    else (k, v) :: insert name value rest

/-- The entries in order of their names; the last value of a name counts. -/
def ofList (entries : List (String × α)) : Assoc α :=
  entries.foldl (fun acc (name, value) => insert name value acc) []

@[simp] theorem find?_nil (name : String) : find? name ([] : Assoc α) = none := rfl

theorem find?_cons (name k : String) (v : α) (rest : Assoc α) :
    find? name ((k, v) :: rest) = if name = k then some v else find? name rest := by
  by_cases h : name = k
  · subst h; simp [find?]
  · have : (name == k) = false := by simpa using h
    simp [find?, List.lookup_cons, h, this]

/-- A look-up sees the value that was put last. -/
theorem find?_insert (name key : String) (value : α) (entries : Assoc α) :
    find? key (insert name value entries) = if key = name then some value else find? key entries := by
  induction entries with
  | nil => simp [insert, find?_cons]
  | cons entry rest ih =>
    obtain ⟨k, v⟩ := entry
    simp only [insert]
    split
    · rename_i h; subst h
      simp only [find?_cons]; split <;> rfl
    · split
      · simp only [find?_cons]
      · rename_i hk _
        simp only [find?_cons, ih]
        by_cases hn : key = name
        · subst hn; simp [hk]
        · simp [hn]

/-- What is put under a name takes the place of what was put there before. -/
theorem insert_insert (name : String) (value later : α) (entries : Assoc α) :
    insert name later (insert name value entries) = insert name later entries := by
  induction entries with
  | nil => simp [insert]
  | cons entry rest ih =>
    obtain ⟨k, v⟩ := entry
    by_cases same : name = k
    · simp [insert, same]
    by_cases before : name < k
    · simp [insert, same, before]
    · simp [insert, same, before, ih]

end Assoc

end TaxLedger
