import Mathlib.Data.List.Basic
import TaxLedger.Proofs.Contract.Known
import TaxLedger.Proofs.Node.Listing

/-!
Bindings of codes and addresses. A code that is bound once stays bound, codes stand in order
(`Sorted.registerCode`), and after any listings a handler is in charge of exactly the contracts on the
pages of those that succeeded (`isSome_handlerFor?_withListed`).
-/

namespace TaxLedger.Contract.Registry

/-! ### Codes -/

def Sorted (r : Registry) : Prop := r.codeIds.Pairwise (· < ·)

theorem mem_keys_bindKey {α : Type} {key k : Nat} {value : α} {entries : List (Nat × α)} :
    k ∈ (bindKey key value entries).map (·.1) ↔ k = key ∨ k ∈ entries.map (·.1) := by
  induction entries with
  | nil => simp [bindKey]
  | cons entry rest ih =>
    obtain ⟨first, v⟩ := entry
    rw [bindKey]
    split
    · simp
    split
    · rename_i same
      simp [same]
    · rw [List.map_cons, List.mem_cons, ih, List.map_cons, List.mem_cons]
      exact or_left_comm

theorem sorted_bindKey {α : Type} (key : Nat) (value : α) {entries : List (Nat × α)}
    (sorted : (entries.map (·.1)).Pairwise (· < ·)) :
    ((bindKey key value entries).map (·.1)).Pairwise (· < ·) := by
  induction entries with
  | nil => simp [bindKey]
  | cons entry rest ih =>
    obtain ⟨first, v⟩ := entry
    obtain ⟨above, later⟩ := List.pairwise_cons.mp sorted
    rw [bindKey]
    split
    · rename_i below
      refine List.pairwise_cons.mpr ⟨fun k member => ?_, sorted⟩
      rcases List.mem_cons.mp member with rfl | inside
      · exact below
      · exact Nat.lt_trans below (above k inside)
    split
    · rename_i same
      subst same
      exact sorted
    · refine List.pairwise_cons.mpr ⟨fun k member => ?_, ih later⟩
      rcases mem_keys_bindKey.mp member with rfl | inside
      · show first < k
        omega
      · exact above k inside

theorem mem_codeIds_registerCode {r : Registry} {code k : Nat} {handler : Handler} :
    k ∈ (r.registerCode code handler).codeIds ↔ k = code ∨ k ∈ r.codeIds := mem_keys_bindKey

theorem Sorted.registerCode {r : Registry} (sorted : r.Sorted) (code : Nat) (handler : Handler) :
    (r.registerCode code handler).Sorted := sorted_bindKey code handler sorted

/-! ### Addresses -/

theorem lookup_cons_eq {α : Type} (key k : String) (v : α) (rest : List (String × α)) :
    ((k, v) :: rest).lookup key = if key = k then some v else rest.lookup key := by
  rw [List.lookup_cons]
  by_cases same : key = k
  · rw [if_pos same, beq_iff_eq.mpr same]
  · rw [if_neg same, beq_eq_false_iff_ne.mpr same]

theorem lookup_bindAddress (address contract : String) (handler : Handler)
    (entries : List (String × Handler)) :
    (bindAddress address handler entries).lookup contract =
      if contract = address then some handler else entries.lookup contract := by
  induction entries with
  | nil => exact lookup_cons_eq contract address handler []
  | cons entry rest ih =>
    obtain ⟨a, h⟩ := entry
    rw [bindAddress]
    split
    · rename_i same
      subst same
      rw [lookup_cons_eq, lookup_cons_eq]
      split <;> rfl
    · rename_i other
      rw [lookup_cons_eq, lookup_cons_eq, ih]
      by_cases own : contract = a
      · rw [if_pos own, if_pos own, if_neg (own ▸ other)]
      · rw [if_neg own, if_neg own]

theorem isSome_lookup_bindAddresses (handler : Handler) (contracts : List String) (contract : String)
    (entries : List (String × Handler)) :
    ((contracts.foldl (fun as a => bindAddress a handler as) entries).lookup contract).isSome ↔
      contract ∈ contracts ∨ (entries.lookup contract).isSome := by
  induction contracts generalizing entries with
  | nil => simp
  | cons first rest ih =>
    rw [List.foldl_cons, ih, lookup_bindAddress, List.mem_cons]
    split
    · rename_i own
      simp [own]
    · rename_i other
      rw [or_iff_right other]

theorem isSome_lookup_codes {r : Registry} {code : Nat} (bound : code ∈ r.codeIds) :
    (r.codes.lookup code).isSome := by
  obtain ⟨entry, member, rfl⟩ := List.mem_map.mp bound
  cases found : r.codes.lookup entry.1 with
  | some handler => rfl
  | none =>
    have absent := List.lookup_eq_none_iff.mp found entry member
    simp at absent

section
variable (r : Registry) (code : Nat) (contracts : List String)

theorem codes_bindContracts : (r.bindContracts code contracts).1.codes = r.codes := by
  rw [bindContracts]
  split <;> rfl

theorem isSome_handlerFor?_bindContracts (contract : String) (bound : code ∈ r.codeIds) :
    ((r.bindContracts code contracts).1.handlerFor? contract).isSome ↔
      contract ∈ contracts ∨ (r.handlerFor? contract).isSome := by
  obtain ⟨handler, found⟩ := Option.isSome_iff_exists.mp (isSome_lookup_codes bound)
  rw [bindContracts, found]
  exact isSome_lookup_bindAddresses handler contracts contract r.addresses

end

/-! ### Listings -/

abbrev Outcome := Nat × Except NodeError (List ContractPage)

/-- Whether a contract stands on a page of a listing that succeeded. -/
def IsListed (outcomes : List Outcome) (contract : String) : Prop :=
  ∃ code pages page, (code, .ok pages) ∈ outcomes ∧ page ∈ pages ∧ contract ∈ page.contracts

/-- The registry after a listing; one that failed changes nothing. -/
def withOutcome (r : Registry) : Outcome → Registry
  | (code, .ok pages) => (r.bindContracts code (ContractPage.contractsOf pages)).1
  | (_, .error _) => r

def withListed (r : Registry) (outcomes : List Outcome) : Registry := outcomes.foldl withOutcome r

theorem codes_withOutcome (r : Registry) (o : Outcome) : (r.withOutcome o).codes = r.codes := by
  obtain ⟨code, result⟩ := o
  cases result with
  | error e => rfl
  | ok pages => exact codes_bindContracts r code _

theorem isListed_cons {code : Nat} {result : Except NodeError (List ContractPage)}
    {rest : List Outcome} {contract : String} :
    IsListed ((code, result) :: rest) contract ↔
      (∃ pages, result = .ok pages ∧ contract ∈ ContractPage.contractsOf pages) ∨
        IsListed rest contract := by
  constructor
  · rintro ⟨listed, pages, page, member, inside, stands⟩
    rcases List.mem_cons.mp member with same | later
    · cases same
      exact .inl ⟨pages, rfl, List.mem_flatMap.mpr ⟨page, inside, stands⟩⟩
    · exact .inr ⟨listed, pages, page, later, inside, stands⟩
  · rintro (⟨pages, rfl, stands⟩ | ⟨listed, pages, page, member, inside, stands⟩)
    · obtain ⟨page, inside, stands⟩ := List.mem_flatMap.mp stands
      exact ⟨code, pages, page, List.mem_cons_self, inside, stands⟩
    · exact ⟨listed, pages, page, List.mem_cons_of_mem _ member, inside, stands⟩

theorem isSome_handlerFor?_withListed {r : Registry} {outcomes : List Outcome}
    (bound : ∀ o ∈ outcomes, o.1 ∈ r.codeIds) (contract : String) :
    ((r.withListed outcomes).handlerFor? contract).isSome ↔
      IsListed outcomes contract ∨ (r.handlerFor? contract).isSome := by
  induction outcomes generalizing r with
  | nil => simp [withListed, IsListed]
  | cons o rest ih =>
    obtain ⟨code, result⟩ := o
    have kept : (r.withOutcome (code, result)).codeIds = r.codeIds :=
      congrArg (List.map Prod.fst) (codes_withOutcome r (code, result))
    have later := ih (r := r.withOutcome (code, result)) fun o member => by
      rw [kept]
      exact bound o (List.mem_cons_of_mem _ member)
    have own : ((r.withOutcome (code, result)).handlerFor? contract).isSome ↔
        (∃ pages, result = .ok pages ∧ contract ∈ ContractPage.contractsOf pages) ∨
          (r.handlerFor? contract).isSome := by
      cases result with
      | error e => simp [withOutcome]
      | ok pages =>
        simp only [withOutcome, Except.ok.injEq, exists_eq_left']
        exact isSome_handlerFor?_bindContracts r code _ contract (bound _ List.mem_cons_self)
    rw [withListed, List.foldl_cons, ← withListed, later, own, isListed_cons]
    exact or_left_comm.trans or_assoc.symm

theorem withListed_error (r : Registry) (front back : List Outcome) (code : Nat) (e : NodeError) :
    r.withListed (front ++ (code, .error e) :: back) = r.withListed (front ++ back) := by
  simp only [withListed, List.foldl_append, List.foldl_cons]
  rfl

end TaxLedger.Contract.Registry
