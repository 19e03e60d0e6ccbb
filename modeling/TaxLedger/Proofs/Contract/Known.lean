import TaxLedger.Indexer.Contracts
import TaxLedger.Proofs.Result
import TaxLedger.Proofs.Work

/-!
Registries in which only known handlers are in charge of contracts. The registry of a configuration is
one, and binding the contracts that a node lists keeps it one.
-/

namespace TaxLedger.Contract

def Handler.Known (h : Handler) : Prop := ∃ name, knownHandler? name = some h

structure Registry.Known (r : Registry) : Prop where
  codes : ∀ entry ∈ r.codes, entry.2.Known
  addresses : ∀ entry ∈ r.addresses, entry.2.Known

theorem Handler.Known.eq_vault {h : Handler} (known : h.Known) : h = Vault.handler := by
  obtain ⟨name, found⟩ := known
  rw [knownHandler?] at found
  split at found
  · exact (Option.some.inj found).symm
  · cases found

namespace Registry

theorem mem_of_lookup {α β : Type} [BEq α] [LawfulBEq α] {key : α} {value : β}
    {entries : List (α × β)} (found : entries.lookup key = some value) : (key, value) ∈ entries := by
  obtain ⟨before, after, rfl, -⟩ := List.lookup_eq_some_iff.mp found
  exact List.mem_append_right _ List.mem_cons_self

theorem mem_bindKey {α : Type} {key : Nat} {value : α} {entries : List (Nat × α)} {x : Nat × α}
    (member : x ∈ bindKey key value entries) : x = (key, value) ∨ x ∈ entries := by
  induction entries with
  | nil => exact .inl (List.mem_singleton.mp member)
  | cons entry rest ih =>
    obtain ⟨k, v⟩ := entry
    rw [bindKey] at member
    split at member
    · exact List.mem_cons.mp member
    · split at member
      · exact (List.mem_cons.mp member).imp_right (List.mem_cons_of_mem _)
      · rcases List.mem_cons.mp member with rfl | inside
        · exact .inr List.mem_cons_self
        · exact (ih inside).imp_right (List.mem_cons_of_mem _)

theorem mem_bindAddress {address : String} {handler : Handler} {entries : List (String × Handler)}
    {x : String × Handler} (member : x ∈ bindAddress address handler entries) :
    x = (address, handler) ∨ x ∈ entries := by
  induction entries with
  | nil => exact .inl (List.mem_singleton.mp member)
  | cons entry rest ih =>
    obtain ⟨a, h⟩ := entry
    rw [bindAddress] at member
    split at member
    · rename_i same
      subst same
      exact (List.mem_cons.mp member).imp_right (List.mem_cons_of_mem _)
    · rcases List.mem_cons.mp member with rfl | inside
      · exact .inr List.mem_cons_self
      · exact (ih inside).imp_right (List.mem_cons_of_mem _)

theorem Known.empty : ({} : Registry).Known := ⟨List.forall_mem_nil _, List.forall_mem_nil _⟩

theorem Known.registerCode {r : Registry} (known : r.Known) (code : Nat) {handler : Handler}
    (named : handler.Known) : (r.registerCode code handler).Known where
  codes entry member := by
    rcases mem_bindKey member with rfl | old
    · exact named
    · exact known.codes entry old
  addresses := known.addresses

theorem Known.builtin : builtin.Known :=
  Known.empty.registerCode _ ⟨Vault.handlerName, if_pos rfl⟩

theorem known_bindAddresses {handler : Handler} (named : handler.Known) (contracts : List String)
    {addresses : List (String × Handler)} (known : ∀ entry ∈ addresses, entry.2.Known) :
    ∀ entry ∈ contracts.foldl (fun as a => bindAddress a handler as) addresses,
      entry.2.Known := by
  induction contracts generalizing addresses with
  | nil => exact known
  | cons contract rest ih =>
    refine ih fun entry member => ?_
    rcases mem_bindAddress member with rfl | old
    · exact named
    · exact known entry old

/-- Binding the contracts of a code puts no other handlers in charge than those of the codes. -/
theorem Known.bindContracts {r : Registry} (known : r.Known) (code : Nat)
    (contracts : List String) : (r.bindContracts code contracts).1.Known := by
  rw [Registry.bindContracts]
  cases found : r.codes.lookup code with
  | none => exact known
  | some handler =>
    have named : handler.Known := known.codes _ (mem_of_lookup found)
    exact ⟨known.codes, known_bindAddresses named contracts known.addresses⟩

theorem Known.handlerFor {r : Registry} (known : r.Known) {contract : String} {handler : Handler}
    (found : r.handlerFor? contract = some handler) : handler = Vault.handler :=
  Handler.Known.eq_vault (known.addresses _ (mem_of_lookup found))

end Registry

end TaxLedger.Contract

namespace TaxLedger.Indexer

open Contract (Registry)

variable {σ : Type}

theorem known_configuredCodes {codes : List (Nat × String)} {r : Registry}
    (success : configuredCodes codes = .ok r) : r.Known := by
  refine foldlM_keeps (fun {before after entry} known stepped => ?_) Registry.Known.builtin success
  obtain ⟨code, name⟩ := entry
  dsimp only at stepped
  split at stepped
  · rename_i handler found
    cases stepped
    exact known.registerCode code ⟨name, found⟩
  · cases stepped

theorem known_bindCode (l : Listing σ) {r : Registry} (known : r.Known) (code : Nat) :
    (l.bindCode r code).Gives Registry.Known := by
  have told {bound : Registry} (held : bound.Known) (line : LogLine) :
      (do
        Work.change (l.tell line)
        return bound : Work σ Failure Registry).Gives Registry.Known :=
    Work.Gives.bind (Work.Gives.any _) fun _ _ => Work.Gives.ok held
  refine Work.Gives.bind (Work.Gives.any _) fun listed _ => ?_
  cases listed with
  | ok contracts => exact told (known.bindContracts code contracts) _
  | error e =>
    dsimp only
    split
    · exact Work.Gives.bind (Work.Gives.any _) fun _ _ => told known _
    · exact told known _

/-- Whatever the node lists, the indexer decodes with known handlers only. -/
theorem known_buildContracts (c : Config) (l : Listing σ) :
    (buildContracts c l).Gives Registry.Known := by
  refine Work.Gives.bind (Work.Gives.result fun r => known_configuredCodes) fun r known => ?_
  split
  · refine Work.Gives.bind (Work.Gives.foldlM (fun _ code before => ?_) _ known) fun _ bound => ?_
    · exact known_bindCode l before code
    · exact Work.Gives.bind (Work.Gives.any _) fun _ _ => Work.Gives.ok bound
  · exact Work.Gives.ok known

end TaxLedger.Indexer
