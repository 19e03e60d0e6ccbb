import TaxLedger.Indexer.Session
import TaxLedger.Proofs.Config.Accepted
import TaxLedger.Proofs.Contract.Binding
import TaxLedger.Proofs.Retry

/-!
Contracts at the start of the indexer. The codes of a configuration are listed one after the other, each
within the budget (`Surveys`). A code whose last try finds the node in trouble is a failure; else a
handler is in charge of exactly the contracts that were listed (`contracts_routed`).
-/

namespace TaxLedger

/-- A code with a handler: the one that is known from the start, or one of the configuration. -/
def Config.Handles (c : Config) (code : Nat) : Prop :=
  code = 575 ∨ ∃ text handler, (text, handler) ∈ c.codeIds ∧ Text.nat64? text = some code

namespace Indexer

open Contract (Registry)
open Contract.Registry (Outcome IsListed)

/-! ### Codes of a configuration -/

def bindConfigured (r : Registry) (entry : Nat × String) : Except Failure Registry :=
  match Contract.knownHandler? entry.2 with
  | some handler => .ok (r.registerCode entry.1 handler)
  | none => .error (.ofText ("Unknown contract handler " ++ entry.2))

theorem bindConfigured_foldlM {codes : List (Nat × String)} {start : Registry}
    (known : ∀ entry ∈ codes, (Contract.knownHandler? entry.2).isSome) (sorted : start.Sorted) :
    ∃ r, codes.foldlM bindConfigured start = .ok r ∧ r.Sorted ∧ r.addresses = start.addresses ∧
      ∀ code, code ∈ r.codeIds ↔ code ∈ start.codeIds ∨ code ∈ codes.map (·.1) := by
  induction codes generalizing start with
  | nil => exact ⟨start, rfl, sorted, rfl, by simp⟩
  | cons entry rest ih =>
    obtain ⟨handler, found⟩ := Option.isSome_iff_exists.mp (known _ List.mem_cons_self)
    have bound : bindConfigured start entry = .ok (start.registerCode entry.1 handler) := by
      rw [bindConfigured, found]
    obtain ⟨r, success, ordered, bare, codes⟩ :=
      ih (fun e member => known e (List.mem_cons_of_mem _ member))
        (sorted.registerCode entry.1 handler)
    refine ⟨r, ?_, ordered, bare, fun code => ?_⟩
    · rw [List.foldlM_cons, bound]
      exact success
    · rw [codes, Registry.mem_codeIds_registerCode, List.map_cons, List.mem_cons, or_assoc]
      exact or_left_comm

theorem mem_contractCodeIds {c : Config} {code : Nat} {handler : String} :
    (code, handler) ∈ c.contractCodeIds ↔
      ∃ text, (text, handler) ∈ c.codeIds ∧ Text.nat64? text = some code := by
  simp only [Config.contractCodeIds, List.mem_filterMap, Option.map_eq_some_iff, Prod.mk.injEq,
    Prod.exists]
  constructor
  · rintro ⟨text, _, member, number, read, rfl, rfl⟩
    exact ⟨text, member, read⟩
  · rintro ⟨text, member, read⟩
    exact ⟨text, handler, member, code, read, rfl, rfl⟩

theorem configuredCodes_ok {c : Config} (accepted : c.Accepted) :
    ∃ r, configuredCodes c.contractCodeIds = .ok r ∧ r.Sorted ∧ r.addresses = [] ∧
      ∀ code, code ∈ r.codeIds ↔ c.Handles code := by
  have known : ∀ entry ∈ c.contractCodeIds, (Contract.knownHandler? entry.2).isSome := by
    intro entry member
    obtain ⟨text, configured, _⟩ := mem_contractCodeIds.mp member
    exact (accepted.contracts text entry.2 configured).2
  have alone : Registry.builtin.Sorted := List.pairwise_singleton _ _
  obtain ⟨r, success, ordered, bare, codes⟩ := bindConfigured_foldlM known alone
  refine ⟨r, success, ordered, bare, fun code => (codes code).trans (or_congr ?_ ?_)⟩
  · exact List.mem_singleton
  · rw [List.mem_map]
    constructor
    · rintro ⟨⟨number, handler⟩, member, rfl⟩
      obtain ⟨text, configured, read⟩ := mem_contractCodeIds.mp member
      exact ⟨text, handler, configured, read⟩
    · rintro ⟨text, handler, configured, read⟩
      exact ⟨(code, handler), mem_contractCodeIds.mpr ⟨text, configured, read⟩, rfl⟩

/-! ### The course of the listings -/

section
variable {ν ω : Type}

/-- How the listings of codes come out, one after the other. The first code whose last try finds the
node in trouble is the last that is listed. -/
inductive Surveys (b : Backoff) (node : Node ν) : List Nat → ν → List Outcome → ν → Prop
  | done {n : ν} : Surveys b node [] n [] n
  | next {code : Nat} {codes : List Nat} {n n' n'' : ν} {result : Except NodeError (List ContractPage)}
      {outcomes : List Outcome} (tried : b.Tries (node.Lists code none) 0 n result n')
      (calm : ∀ e, result = .error e → e.isTransient = false)
      (later : Surveys b node codes n' outcomes n'') :
      Surveys b node (code :: codes) n ((code, result) :: outcomes) n''
  | trouble {code : Nat} {codes : List Nat} {n n' : ν} {e : NodeError}
      (tried : b.Tries (node.Lists code none) 0 n (.error e) n') (transient : e.isTransient = true) :
      Surveys b node (code :: codes) n [(code, .error e)] n'

def Troubled (outcomes : List Outcome) : Prop :=
  ∃ code e, (code, .error e) ∈ outcomes ∧ e.isTransient = true

theorem exists_surveys {b : Backoff} {node : Node ν} (finite : 0 ≤ b.maxAttempts) {codes : List Nat}
    {start n : ν} (ends : ∀ code ∈ codes, ∀ n, node.Reaches start n →
      ∃ result n', node.Lists code none n result n') (reached : node.Reaches start n) :
    ∃ outcomes n', Surveys b node codes n outcomes n' := by
  induction codes generalizing n with
  | nil => exact ⟨[], n, .done⟩
  | cons code codes ih =>
    have listed : ∀ n, node.Reaches start n →
        ∃ result n', node.Lists code none n result n' ∧ node.Reaches start n' := by
      intro n here
      obtain ⟨result, n', lists⟩ := ends code List.mem_cons_self n here
      exact ⟨result, n', lists, lists.reaches here⟩
    obtain ⟨result, n', tried, there⟩ := Backoff.exists_tries finite listed 0 reached
    obtain ⟨outcomes, n'', later⟩ :=
      ih (fun k member => ends k (List.mem_cons_of_mem _ member)) there
    cases result with
    | ok pages => exact ⟨_, _, .next tried nofun later⟩
    | error e =>
      cases kind : e.isTransient with
      | true => exact ⟨_, _, .trouble tried kind⟩
      | false =>
        refine ⟨_, _, .next tried (fun own same => ?_) later⟩
        cases same
        exact kind

/-! ### What the indexer makes of it -/

variable {c : Config} {node : Node ν} {s : Session ν ω} {n : ν} {code : Nat}
  {result : Except NodeError (List ContractPage)}

def startBudget (c : Config) : Backoff :=
  Backoff.ofSeconds c.base.retryAttempts c.base.retryMaxWait

theorem onNode_ends {α : Type} {w : Nat → Work ν NodeError α} {outcome : Except NodeError α} {n' : ν}
    (ended : Work.Ends w n outcome n') :
    Work.Ends (fun patience => Session.onNode (w patience)) { s with node := n } outcome
      { s with node := n' } := by
  obtain ⟨m, ended⟩ := ended
  refine ⟨m, fun patience enough => ?_⟩
  show ((w patience).on n).map _ = _
  rw [ended patience enough]
  rfl

theorem listing_ends (tried : (startBudget c).Tries (node.Lists code none) 0 s.node result n) :
    Work.Ends
      (fun patience =>
        (((startBudget c).run patience ((contractListing c node patience).list code)).outcome :
          Work (Session ν ω) Failure _)) s
      (.ok (result.map ContractPage.contractsOf)) { s with node := n } :=
  (tried.run_ends (fun n => { s with node := n }) fun _ _ _ lists =>
    onNode_ends lists.contracts_ends).outcome

theorem bindCode_ends (r : Registry)
    (tried : (startBudget c).Tries (node.Lists code none) 0 s.node result n)
    (calm : ∀ e, result = .error e → e.isTransient = false) :
    ∃ t : Session ν ω, t.node = n ∧
      Work.Ends (fun patience => (contractListing c node patience).bindCode r code) s
        (.ok (r.withOutcome (code, result))) t := by
  have listed := listing_ends tried
  cases result with
  | ok pages => exact ⟨_, rfl, .bind listed ⟨0, fun _ _ => rfl⟩⟩
  | error e =>
    let warning : LogLine :=
      ⟨.warn, "Could not list contracts for code id " ++ toString code ++ ": " ++ e.message⟩
    refine ⟨Session.told warning { s with node := n }, rfl, .bind listed ⟨0, fun _ _ => ?_⟩⟩
    simp only [Except.map, calm e rfl, Bool.false_eq_true, if_false]
    rfl

def listingFailure (code : Nat) (e : NodeError) : Failure :=
  ⟨["Failed to list contracts for code id " ++ toString code], .node e⟩

theorem bindCode_fails (r : Registry) {e : NodeError}
    (tried : (startBudget c).Tries (node.Lists code none) 0 s.node (.error e) n)
    (transient : e.isTransient = true) :
    Work.Ends (fun patience => (contractListing c node patience).bindCode r code) s
      (.error (listingFailure code e)) { s with node := n } := by
  refine .bind (listing_ends tried) ⟨0, fun _ _ => ?_⟩
  simp only [Except.map, transient, if_true]
  rfl

theorem bindCodes_end {codes : List Nat} {outcomes : List Outcome} {start n : ν}
    (surveys : Surveys (startBudget c) node codes start outcomes n) (r : Registry)
    {s : Session ν ω} (there : s.node = start) :
    ∃ (t : Session ν ω) (verdict : Except Failure Registry), t.node = n ∧
      Work.Ends (fun patience => codes.foldlM (contractListing c node patience).bindCode r) s
        verdict t ∧
      ((¬Troubled outcomes ∧ outcomes.map (·.1) = codes ∧ verdict = .ok (r.withListed outcomes)) ∨
        ∃ code e, (code, .error e) ∈ outcomes ∧ e.isTransient = true ∧
          verdict = .error (listingFailure code e)) := by
  induction surveys generalizing r s with
  | done => exact ⟨s, .ok r, there, .of_on rfl, .inl ⟨nofun, rfl, rfl⟩⟩
  | @next code codes _ n' _ result outcomes tried calm later ih =>
    subst there
    obtain ⟨s', at', first⟩ := bindCode_ends r tried calm
    obtain ⟨t, verdict, here, rest, came⟩ := ih (r.withOutcome (code, result)) at'
    refine ⟨t, verdict, here, ?_, ?_⟩
    · simp only [List.foldlM_cons]
      exact .bind first rest
    · rcases came with ⟨untroubled, listed, good⟩ | ⟨code', e, member, transient, bad⟩
      · refine .inl ⟨?_, congrArg (code :: ·) listed, good⟩
        rintro ⟨code', e, member, transient⟩
        rcases List.mem_cons.mp member with same | inside
        · cases same
          rw [calm e rfl] at transient
          cases transient
        · exact untroubled ⟨code', e, inside, transient⟩
      · exact .inr ⟨code', e, List.mem_cons_of_mem _ member, transient, bad⟩
  | @trouble code codes _ n' e tried transient =>
    subst there
    refine ⟨{ s with node := n' }, .error (listingFailure code e), rfl, ?_,
      .inr ⟨code, e, List.mem_singleton.mpr rfl, transient, rfl⟩⟩
    simp only [List.foldlM_cons]
    exact .bind_error (bindCode_fails r tried transient)

theorem buildContracts_ends {configured : Registry} {verdict : Except Failure Registry}
    {t : Session ν ω} (registered : configuredCodes c.contractCodeIds = .ok configured)
    (chain : c.base.indexChain = true)
    (bound : Work.Ends
      (fun patience => configured.codeIds.foldlM (contractListing c node patience).bindCode configured)
      s verdict t) :
    ∃ t' : Session ν ω, t'.node = t.node ∧
      Work.Ends (fun patience => buildContracts c (contractListing c node patience)) s verdict t' := by
  simp only [buildContracts, registered, chain, if_true]
  cases verdict with
  | ok r =>
    exact ⟨Session.told _ t, rfl, .bind (.of_on rfl) (.bind bound ⟨0, fun _ _ => rfl⟩)⟩
  | error f => exact ⟨t, rfl, .bind (.of_on rfl) (.bind_error bound)⟩

/-- Contracts are routed completely at the start. Where every listing that the node can be asked for
comes to an end, the codes of an accepted configuration are listed in order, each within a finite budget.
However that comes out, the start fails exactly if the last try at one of the codes found the node in
trouble. Else all codes are listed, a handler is in charge of exactly the contracts on the pages of the
listings that succeeded, and a listing that failed leaves the registry as it is without it. -/
theorem contracts_routed (c : Config) (node : Node ν) (ok : c.validate = .ok ())
    (chain : c.base.indexChain = true) (finite : 0 ≤ c.base.retryAttempts)
    (s : Session ν ω) (ends : ∀ code, c.Handles code → ∀ n, node.Reaches s.node n →
      ∃ result n', node.Lists code none n result n') :
    ∃ configured, configuredCodes c.contractCodeIds = .ok configured ∧
      configured.codeIds.Pairwise (· < ·) ∧
      (∀ code, code ∈ configured.codeIds ↔ c.Handles code) ∧
      (∃ outcomes n, Surveys (startBudget c) node configured.codeIds s.node outcomes n) ∧
      ∀ outcomes n, Surveys (startBudget c) node configured.codeIds s.node outcomes n →
        ∃ verdict t, t.node = n ∧
          Work.Ends (fun patience => buildContracts c (contractListing c node patience)) s verdict t ∧
          ((∃ f, verdict = .error f) ↔ Troubled outcomes) ∧
          ∀ r, verdict = .ok r →
            outcomes.map (·.1) = configured.codeIds ∧
            (∀ contract, (r.handlerFor? contract).isSome ↔ IsListed outcomes contract) ∧
            ∀ front code e back, outcomes = front ++ (code, .error e) :: back →
              r = configured.withListed (front ++ back) := by
  have accepted := (Config.validate_ok_iff c).mp ok
  obtain ⟨configured, registered, sorted, bare, codes⟩ := configuredCodes_ok accepted
  have limited : 0 ≤ (startBudget c).maxAttempts := finite
  have come := exists_surveys limited (fun code member => ends code ((codes code).mp member)) .start
  refine ⟨configured, registered, sorted, codes, come, fun outcomes n surveys => ?_⟩
  obtain ⟨t, verdict, here, bound, came⟩ := bindCodes_end surveys configured rfl
  obtain ⟨t', same, built⟩ := buildContracts_ends registered chain bound
  refine ⟨verdict, t', same.trans here, built, ?_, ?_⟩
  · rcases came with ⟨untroubled, _, rfl⟩ | ⟨code, e, member, transient, rfl⟩
    · exact ⟨nofun, fun troubled => absurd troubled untroubled⟩
    · exact ⟨fun _ => ⟨code, e, member, transient⟩, fun _ => ⟨_, rfl⟩⟩
  · intro r routed
    rcases came with ⟨_, listed, rfl⟩ | ⟨_, _, _, _, rfl⟩
    · cases routed
      have among : ∀ o ∈ outcomes, o.1 ∈ configured.codeIds := by
        intro o member
        rw [← listed]
        exact List.mem_map_of_mem member
      refine ⟨listed, fun contract => ?_, ?_⟩
      · rw [Registry.isSome_handlerFor?_withListed among, Registry.handlerFor?, bare]
        exact or_iff_left nofun
      · rintro front code e back rfl
        exact Registry.withListed_error configured front back code e
    · cases routed

end

/-! ### A node with two pages -/

/-- A configuration with a code of its own and one try more than the first. -/
def twoCodes : Config where
  chain := ⟨"osmosis-1", "osmosis", "osmo"⟩
  node := { rpc := "http://localhost:26657", api := "http://localhost:1317" }
  base := { retryAttempts := 1 }
  codeIds := [("600", "calcfi-dca")]

/-- The contracts of the code 575 on two pages, and nothing else. The node is down until it has been
asked once. -/
def twoPages : Node Bool where
  procedures := "http://localhost:26657"
  resources := "http://localhost:1317"
  ask request isUp :=
    if !isUp then (.answered 503 "", true)
    else if request.path = "/cosmwasm/wasm/v1/code/575/contracts" then
      match request.query.lookup "pagination.key" with
      | none => (.answered 200
          "\x7b\"contracts\":[\"osmo1a\"],\"pagination\":\x7b\"next_key\":\"b\"\x7d\x7d", true)
      | some _ => (.answered 200 "\x7b\"contracts\":[\"osmo1b\"]\x7d", true)
    else (.answered 404 "", true)

theorem twoPages_down (code : Nat) :
    ∃ e : NodeError, twoPages.Lists code none false (.error e) true := ⟨_, .failed rfl⟩

theorem twoPages_lists : twoPages.Lists 575 none true
    (.ok [⟨["osmo1a"], some ⟨some "b", 0⟩⟩, ⟨["osmo1b"], none⟩]) true := by
  have first : (twoPages.contractPage 575 none).on true =
      some (.ok ⟨["osmo1a"], some ⟨some "b", 0⟩⟩, true) := by decide +kernel
  have second : (twoPages.contractPage 575 (some "b")).on true =
      some (.ok ⟨["osmo1b"], none⟩, true) := by decide +kernel
  exact .more first rfl (.last second rfl)

theorem twoPages_refuses : ∃ e : NodeError, e.isTransient = false ∧
    twoPages.Lists 600 none true (.error e) true := by
  have refused : (twoPages.contractPage 600 none).on true = some (.error (.status
      "http://localhost:1317/cosmwasm/wasm/v1/code/600/contracts" 404 ""), true) := by decide +kernel
  exact ⟨_, rfl, .failed refused⟩

theorem handles_twoCodes {code : Nat} : twoCodes.Handles code ↔ code = 575 ∨ code = 600 := by
  have read : Text.nat64? "600" = some 600 := by decide
  constructor
  · rintro (known | ⟨text, handler, member, number⟩)
    · exact .inl known
    · cases List.mem_singleton.mp member
      exact .inr (Option.some.inj (number.symm.trans read))
  · rintro (rfl | rfl)
    · exact .inl rfl
    · exact .inr ⟨"600", "calcfi-dca", List.mem_cons_self, read⟩

/-- The node is down at the first try for the contracts of 575, and the second one lists them. The code
that it does not have costs the other one nothing. -/
theorem contracts_routed_of_twoPages : ∃ (r : Registry) (t : Session Bool Unit),
    (∃ e, (twoPages.contractPage 575 none).on false = some (.error e, true) ∧ e.isTransient = true) ∧
    Work.Ends (fun patience => buildContracts twoCodes (contractListing twoCodes twoPages patience))
      { node := false } (.ok r) t ∧
    ∀ contract, (r.handlerFor? contract).isSome ↔ contract = "osmo1a" ∨ contract = "osmo1b" := by
  have ends : ∀ code, twoCodes.Handles code → ∀ n, twoPages.Reaches false n →
      ∃ result n', twoPages.Lists code none n result n' := by
    intro code handled n _
    cases n with
    | false =>
      obtain ⟨e, failed⟩ := twoPages_down code
      exact ⟨_, _, failed⟩
    | true =>
      rcases handles_twoCodes.mp handled with rfl | rfl
      · exact ⟨_, _, twoPages_lists⟩
      · obtain ⟨e, _, refused⟩ := twoPages_refuses
        exact ⟨_, _, refused⟩
  obtain ⟨configured, registered, _, _, _, all⟩ :=
    contracts_routed twoCodes twoPages (by decide +kernel) rfl (by decide)
      ({ node := false } : Session Bool Unit) ends
  have codes : configured.codeIds = [575, 600] := by
    cases registered
    rfl
  obtain ⟨e, lasting, refused⟩ := twoPages_refuses
  obtain ⟨_, down⟩ := twoPages_down 575
  have surveys : Surveys (startBudget twoCodes) twoPages configured.codeIds false
      [(575, .ok [⟨["osmo1a"], some ⟨some "b", 0⟩⟩, ⟨["osmo1b"], none⟩]), (600, .error e)] true := by
    rw [codes]
    -- Either code takes the first try and the one more that the budget allows.
    refine .next (.again down rfl (.success twoPages_lists)) nofun
      (.next (.again refused rfl (.spent refused rfl)) ?_ .done)
    rintro _ ⟨⟩
    exact lasting
  obtain ⟨verdict, t, _, built, fails, routed⟩ := all _ _ surveys
  cases verdict with
  | error f =>
    obtain ⟨code, other, member, transient⟩ := fails.mp ⟨f, rfl⟩
    rcases List.mem_cons.mp member with same | member
    · cases same
    · cases List.mem_singleton.mp member
      rw [lasting] at transient
      cases transient
  | ok r =>
    obtain ⟨_, inCharge, _⟩ := routed r rfl
    refine ⟨r, t, ⟨_, rfl, rfl⟩, built, fun contract => (inCharge contract).trans ?_⟩
    simp [IsListed]

end Indexer

end TaxLedger
