/-!
Readers tried in turn. The first success counts, or the error of the last one if all of them fail
(`FirstOk.eq`), and all of them fail exactly if there are some and none succeeds (`exists_spent_iff`).
-/

namespace TaxLedger

variable {δ ε α : Type} {read : δ → Except ε α} {result : Except ε α}

/-- The first success of a list of readers, or the error of the last one; `problem` is the error of the
one before. -/
def firstOk (read : δ → Except ε α) (problem : ε) : List δ → Except ε α
  | [] => .error problem
  | d :: rest =>
    match read d with
    | .ok a => .ok a
    | .error e => firstOk read e rest

inductive FirstOk (read : δ → Except ε α) : List δ → Except ε α → Prop
  | found {before after : List δ} {d : δ} {a : α} (refused : ∀ x ∈ before, ∃ e, read x = .error e)
      (accepted : read d = .ok a) : FirstOk read (before ++ d :: after) (.ok a)
  | spent {before : List δ} {d : δ} {e : ε} (refused : ∀ x ∈ before, ∃ e, read x = .error e)
      (last : read d = .error e) : FirstOk read (before ++ [d]) (.error e)

theorem FirstOk.cons {d : δ} {e : ε} {rest : List δ} (refused : read d = .error e)
    (later : FirstOk read rest result) : FirstOk read (d :: rest) result := by
  cases later with
  | @found before after x a others accepted =>
    rw [← List.cons_append]
    exact .found (List.forall_mem_cons.mpr ⟨⟨e, refused⟩, others⟩) accepted
  | @spent before x e' others last =>
    rw [← List.cons_append]
    exact .spent (List.forall_mem_cons.mpr ⟨⟨e, refused⟩, others⟩) last

theorem FirstOk.ne_nil {tried : List δ} (first : FirstOk read tried result) : tried ≠ [] := by
  cases first <;> exact List.append_ne_nil_of_right_ne_nil _ (List.cons_ne_nil _ _)

theorem exists_firstOk {tried : List δ} (filled : tried ≠ []) : ∃ result, FirstOk read tried result := by
  induction tried with
  | nil => exact absurd rfl filled
  | cons d rest ih =>
    cases own : read d with
    | ok a => exact ⟨.ok a, @FirstOk.found _ _ _ read [] rest d a nofun own⟩
    | error e =>
      by_cases last : rest = []
      · subst last
        exact ⟨.error e, @FirstOk.spent _ _ _ read [] d e nofun own⟩
      · obtain ⟨result, later⟩ := ih last
        exact ⟨result, later.cons own⟩

/-- Readers behind a success are not asked. -/
theorem FirstOk.append {tried : List δ} {a : α} (first : FirstOk read tried (.ok a)) (more : List δ) :
    FirstOk read (tried ++ more) (.ok a) := by
  cases first with
  | found refused accepted =>
    rw [List.append_assoc]
    exact .found refused accepted

theorem exists_spent_iff {tried : List δ} :
    (∃ e, FirstOk read tried (.error e)) ↔ tried ≠ [] ∧ ∀ d ∈ tried, ∃ e, read d = .error e := by
  constructor
  · rintro ⟨e, first⟩
    refine ⟨first.ne_nil, ?_⟩
    cases first with
    | spent refused last =>
      rw [List.forall_mem_append, List.forall_mem_singleton]
      exact ⟨refused, e, last⟩
  · rintro ⟨filled, refused⟩
    rw [← List.dropLast_concat_getLast filled, List.forall_mem_append, List.forall_mem_singleton]
      at refused
    obtain ⟨earlier, e, last⟩ := refused
    rw [← List.dropLast_concat_getLast filled]
    exact ⟨e, .spent earlier last⟩

theorem firstOk_append_of_refused {before : List δ} (refused : ∀ x ∈ before, ∃ e, read x = .error e)
    (problem : ε) (rest : List δ) :
    ∃ e, firstOk read problem (before ++ rest) = firstOk read e rest := by
  induction before generalizing problem with
  | nil => exact ⟨problem, rfl⟩
  | cons d before ih =>
    obtain ⟨⟨e, failed⟩, others⟩ := List.forall_mem_cons.mp refused
    obtain ⟨last, behind⟩ := ih others e
    refine ⟨last, ?_⟩
    rw [List.cons_append, firstOk, failed]
    exact behind

theorem FirstOk.eq {tried : List δ} (first : FirstOk read tried result) (problem : ε) :
    firstOk read problem tried = result := by
  cases first with
  | found refused accepted =>
    obtain ⟨e, behind⟩ := firstOk_append_of_refused refused problem _
    rw [behind]
    unfold firstOk
    rw [accepted]
  | spent refused last =>
    obtain ⟨e, behind⟩ := firstOk_append_of_refused refused problem _
    rw [behind]
    unfold firstOk
    rw [last]
    rfl

end TaxLedger
