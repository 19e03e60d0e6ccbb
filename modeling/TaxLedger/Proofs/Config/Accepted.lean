import TaxLedger.Config.Basic

/-!
What the checks of a configuration ask for, as one condition for each setting (`validate_ok_iff`): the
order of the checks decides which reason is given, and not which configurations are accepted.
-/

namespace TaxLedger.Config

/-- A configuration with which the indexer is told to run. -/
structure Accepted (c : Config) : Prop where
  chainId : c.chain.id ≠ ""
  accountPrefix : c.chain.accountPrefix ≠ ""
  rpc : c.node.rpc ≠ ""
  api : c.node.api ≠ ""
  workers : 0 < c.base.workers
  queueSize : 0 < c.base.queueSize
  range : 0 ≤ c.base.endBlock → c.base.startBlock ≤ c.base.endBlock
  purpose : c.base.indexChain ∨ c.base.indexBlockEvents ∨ c.base.indexEpochEvents
  epochs : c.base.indexEpochEvents →
    c.base.epochIdentifier ≠ "" ∧ c.base.indexChain = false ∧ c.base.indexBlockEvents = false
  isFinite : c.base.throttling.isFinite
  nonnegative : c.base.throttling.isNegative → c.base.throttling.isZero
  contracts : ∀ codeId handler, (codeId, handler) ∈ c.codeIds →
    (Text.nat64? codeId).isSome ∧ (Contract.knownHandler? handler).isSome

/-- A check with a reason to refuse is passed, and so are those behind it. -/
theorem ite_error_eq_ok {refused : Prop} [Decidable refused] {reason : String}
    {rest : Except String Unit} :
    (if refused then .error reason else rest) = .ok () ↔ ¬refused ∧ rest = .ok () := by
  by_cases holds : refused
  · rw [if_pos holds]
    exact ⟨nofun, fun passed => absurd holds passed.1⟩
  · rw [if_neg holds]
    exact ⟨fun later => ⟨holds, later⟩, And.right⟩

theorem checkCodeIds_ok_iff (codeIds : Assoc String) :
    checkCodeIds codeIds = .ok () ↔ ∀ codeId handler, (codeId, handler) ∈ codeIds →
      (Text.nat64? codeId).isSome ∧ (Contract.knownHandler? handler).isSome := by
  induction codeIds with
  | nil => exact ⟨nofun, fun _ => rfl⟩
  | cons entry rest ih =>
    obtain ⟨codeId, handler⟩ := entry
    rw [checkCodeIds, ite_error_eq_ok, ite_error_eq_ok, ih]
    simp only [Bool.not_eq_true, Option.isNone_eq_false_iff]
    constructor
    · rintro ⟨numbered, handled, later⟩ a b member
      rcases List.mem_cons.mp member with same | inside
      · cases same
        exact ⟨numbered, handled⟩
      · exact later a b inside
    · intro all
      obtain ⟨numbered, handled⟩ := all codeId handler List.mem_cons_self
      exact ⟨numbered, handled, fun a b inside => all a b (List.mem_cons_of_mem _ inside)⟩

theorem validate_ok_iff (c : Config) : c.validate = .ok () ↔ c.Accepted := by
  simp only [validate, ite_error_eq_ok, checkCodeIds_ok_iff, Bool.or_eq_true, Bool.and_eq_true,
    decide_eq_true_eq, Bool.not_eq_true', not_or, not_and, Bool.not_eq_false, Bool.not_eq_true]
  constructor
  · rintro ⟨chainId, accountPrefix, addresses, workers, queueSize, range, purpose, epochs, alone,
      throttling, contracts⟩
    exact {
      chainId, accountPrefix, contracts
      rpc := addresses.1
      api := addresses.2
      workers := Nat.pos_of_ne_zero workers
      queueSize := Nat.pos_of_ne_zero queueSize
      range := fun ends => Int.not_lt.mp (range ends)
      purpose := by
        by_cases chain : c.base.indexChain
        · exact .inl chain
        · by_cases events : c.base.indexBlockEvents
          · exact .inr (.inl events)
          · exact .inr (.inr (purpose ⟨eq_false_of_ne_true chain, eq_false_of_ne_true events⟩))
      epochs := fun enabled => ⟨epochs enabled, alone enabled⟩
      isFinite := throttling.1
      nonnegative := throttling.2 }
  · intro accepted
    have purpose : c.base.indexChain = false ∧ c.base.indexBlockEvents = false →
        c.base.indexEpochEvents = true := by
      rintro ⟨noChain, noEvents⟩
      rcases accepted.purpose with chain | events | epochs
      · rw [noChain] at chain
        cases chain
      · rw [noEvents] at events
        cases events
      · exact epochs
    exact ⟨accepted.chainId, accepted.accountPrefix, ⟨accepted.rpc, accepted.api⟩,
      Nat.ne_of_gt accepted.workers, Nat.ne_of_gt accepted.queueSize,
      fun ends => Int.not_lt.mpr (accepted.range ends), purpose,
      fun enabled => (accepted.epochs enabled).1, fun enabled => (accepted.epochs enabled).2,
      ⟨accepted.isFinite, accepted.nonnegative⟩, accepted.contracts⟩

end TaxLedger.Config
