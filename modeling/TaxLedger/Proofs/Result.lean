import Mathlib.Data.List.Forall2

/-!
Chains of steps that may fail. A chain that succeeds is taken apart step by step, and the values of a list
one by one (`mapM_eq_ok_iff`).
-/

namespace TaxLedger

section
variable {ε α β γ : Type}

theorem bind_ok {x : Except ε α} {f : α → Except ε β} {b : β} (success : (x >>= f) = .ok b) :
    ∃ a, x = .ok a ∧ f a = .ok b := by
  cases x with
  | error e => cases success
  | ok a => exact ⟨a, rfl, success⟩

theorem map_ok {x : Except ε α} {f : α → β} {b : β} (success : x.map f = .ok b) :
    ∃ a, x = .ok a ∧ f a = b := by
  cases x with
  | error e => cases success
  | ok a => exact ⟨a, rfl, Except.ok.inj success⟩

theorem ok_of_toOption {result : Except ε α} {a : α} (some : result.toOption = some a) :
    result = .ok a := by
  cases result with
  | error e => cases some
  | ok own => exact congrArg _ (Option.some.inj some)

theorem mapM_eq_ok_iff {f : α → Except ε β} {xs : List α} {ys : List β} :
    xs.mapM f = .ok ys ↔ List.Forall₂ (fun x y => f x = .ok y) xs ys := by
  constructor
  · intro success
    induction xs generalizing ys with
    | nil =>
      cases success
      exact .nil
    | cons x xs ih =>
      rw [List.mapM_cons] at success
      obtain ⟨first, read, success⟩ := bind_ok success
      obtain ⟨others, later, success⟩ := bind_ok success
      cases success
      exact .cons read (ih later)
  · intro related
    induction related with
    | nil => rfl
    | cons read _ later =>
      rw [List.mapM_cons, read, later]
      rfl

/-- A failure is that of the first value at which there is one. -/
theorem mapM_eq_error_iff {f : α → Except ε β} {xs : List α} {e : ε} :
    xs.mapM f = .error e ↔
      ∃ before x after, xs = before ++ x :: after ∧ (∀ y ∈ before, ∃ b, f y = .ok b) ∧
        f x = .error e := by
  constructor
  · intro failure
    induction xs with
    | nil => cases failure
    | cons x xs ih =>
      rw [List.mapM_cons] at failure
      cases read : f x with
      | error own =>
        rw [read] at failure
        cases failure
        exact ⟨[], x, xs, rfl, nofun, read⟩
      | ok b =>
        cases later : xs.mapM f with
        | error own =>
          rw [read, later] at failure
          cases failure
          obtain ⟨before, y, after, parts, accepted, refused⟩ := ih later
          exact ⟨x :: before, y, after, congrArg _ parts,
            List.forall_mem_cons.mpr ⟨⟨b, read⟩, accepted⟩, refused⟩
        | ok others =>
          rw [read, later] at failure
          cases failure
  · rintro ⟨before, x, after, rfl, accepted, refused⟩
    induction before with
    | nil =>
      rw [List.nil_append, List.mapM_cons, refused]
      rfl
    | cons y before ih =>
      obtain ⟨⟨b, read⟩, others⟩ := List.forall_mem_cons.mp accepted
      rw [List.cons_append, List.mapM_cons, read, ih others]
      rfl

theorem mapM_fails_iff {f : α → Except ε β} {xs : List α} :
    (∃ e, xs.mapM f = .error e) ↔ ∃ x ∈ xs, ∃ e, f x = .error e := by
  induction xs with
  | nil => exact ⟨nofun, nofun⟩
  | cons x xs ih =>
    rw [List.mapM_cons, List.exists_mem_cons_iff, ← ih]
    cases f x with
    | error e => exact ⟨fun _ => .inl ⟨e, rfl⟩, fun _ => ⟨e, rfl⟩⟩
    | ok y =>
      cases xs.mapM f with
      | error e => exact ⟨fun _ => .inr ⟨e, rfl⟩, fun _ => ⟨e, rfl⟩⟩
      | ok ys => exact ⟨nofun, nofun⟩

theorem mapM_ok {f : α → Except ε β} {xs : List α} {ys : List β}
    (success : xs.mapM f = .ok ys) : ∀ y ∈ ys, ∃ x ∈ xs, f x = .ok y := by
  have related := mapM_eq_ok_iff.mp success
  clear success
  intro y member
  induction related with
  | nil => cases member
  | cons read _ later =>
    rcases List.mem_cons.mp member with rfl | inside
    · exact ⟨_, List.mem_cons_self, read⟩
    · obtain ⟨source, among, found⟩ := later inside
      exact ⟨source, List.mem_cons_of_mem _ among, found⟩

/-- What every step keeps holds of what a run ends with. -/
theorem foldlM_keeps {P : β → Prop} {step : β → α → Except ε β}
    (keeps : ∀ {before after : β} {x : α}, P before → step before x = .ok after → P after)
    {xs : List α} {start final : β} (begins : P start) (success : xs.foldlM step start = .ok final) :
    P final := by
  induction xs generalizing start with
  | nil =>
    cases success
    exact begins
  | cons x xs ih =>
    rw [List.foldlM_cons] at success
    obtain ⟨next, stepped, success⟩ := bind_ok success
    exact ih (keeps begins stepped) success

end

end TaxLedger
