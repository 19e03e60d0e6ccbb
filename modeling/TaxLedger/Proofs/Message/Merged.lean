import TaxLedger.Proofs.Event.Merged
import TaxLedger.Proofs.Message.Registry

/-!
Decoding a message whose log has its events merged by kind. The decoders that read coins and transfers
make the same of it as of the log as it came, where no event is cut in the middle of what is read.
-/

namespace TaxLedger.Message

def flowTypes : List String :=
  [delegateType, undelegateType, redelegateType] ++ ValidatorSet.messageTypes ++
  Pool.Position.kinds.map (·.1) ++
  [submitProposalType, submitProposalV1Type, depositType, depositV1Type] ++
  [Pool.createPoolType, Pool.createBalancerPoolType, Pool.createBalancerModelPoolType]

/-- A decoder that makes the same of an entry and of its merged form. -/
def ReadsMerged (d : Decoder) : Prop :=
  ∀ (message : Json) (entry : LogEntry), entry.Separable →
    d.read d.messageType message (some entry.merged) = d.read d.messageType message (some entry)

theorem readsMerged_make {α : Type} {messageType : String} {blank : α} {view : α → Reading}
    {read : String → Json → Option LogEntry → Except DecodeError α}
    (alike : ∀ message (entry : LogEntry), entry.Separable →
      read messageType message (some entry.merged) = read messageType message (some entry)) :
    ReadsMerged (.make messageType blank view read) := by
  intro message entry separable
  exact congrArg (Except.map view) (alike message entry separable)

/-- One way to read a log that makes the same of an entry and of its merged form. -/
def SeesNoMerge {α : Type} (read : String → Json → LogEntry → Except DecodeError α) : Prop :=
  ∀ typeUrl message (entry : LogEntry), entry.Separable →
    read typeUrl message entry.merged = read typeUrl message entry

/-! ### Steps on the entry -/

section
variable {β : Type} {typeUrl : String} {entry : LogEntry} {f : LogEntry → Except DecodeError β}

theorem requireLog_merged (alike : f entry.merged = f entry) :
    (requireLog typeUrl (some entry.merged) >>= f) = (requireLog typeUrl (some entry) >>= f) :=
  alike

theorem requireAction_bind (l : LogEntry) :
    (requireAction typeUrl (some l) >>= f) =
      if l.hasAction typeUrl then f l
      else .error (.logFormat typeUrl "message action does not match") := by
  by_cases named : l.hasAction typeUrl = true
  · simp [requireAction, requireLog, named, bind, Except.bind]
  · simp [requireAction, requireLog, named, bind, Except.bind]

theorem requireAction_merged (separable : entry.Separable) (alike : f entry.merged = f entry) :
    (requireAction typeUrl (some entry.merged) >>= f) =
      (requireAction typeUrl (some entry) >>= f) := by
  rw [requireAction_bind, requireAction_bind, hasAction_merged separable, alike]

end

/-! ### Rewards and positions -/

theorem delegation_readsMerged (messageType : String) :
    ReadsMerged (Delegation.decoder messageType) := by
  refine readsMerged_make fun message entry separable => requireAction_merged separable ?_
  simp only [coinsReceived_merged separable]

theorem validatorSet_readsMerged (messageType : String) :
    ReadsMerged (ValidatorSet.decoder messageType) := by
  refine readsMerged_make fun message entry separable => requireAction_merged separable ?_
  simp only [coinsReceived_merged separable]

open Pool.Position in
theorem coinsOf_merged {entry : LogEntry} (separable : entry.Separable) (direction : Direction)
    (source : Source) (typeUrl account : String) :
    coinsOf direction source typeUrl account entry.merged =
      coinsOf direction source typeUrl account entry := by
  cases source with
  | incentiveTotals =>
    have totals := @merged_congr _ (fun events => events.flatMap fun e => e.values "tokens_out")
      entry "total_collect_incentives" (by rw [List.flatMap_singleton, values_joined])
    simp only [coinsOf, totals]
  | coinEvents checksAction =>
    cases direction with
    | into => simp only [coinsOf, isEmpty_merged, coinsSpent_merged separable]
    | out => simp only [coinsOf, isEmpty_merged, coinsReceived_merged separable]

open Pool.Position in
theorem position_readsMerged (messageType : String) (direction : Direction) (source : Source) :
    ReadsMerged (Pool.Position.decoder messageType direction source) := by
  refine readsMerged_make fun message entry separable => ?_
  rw [Pool.Position.read, Pool.Position.read]
  split
  · refine requireAction_merged separable ?_
    simp only [coinsOf_merged separable]
  · refine requireLog_merged ?_
    simp only [coinsOf_merged separable]

/-! ### Deposits on proposals -/

namespace ProposalDeposit

def ofTransfer (t : Transfer) : Except DecodeError (List (String × Coin)) :=
  (Coin.parseList t.amount).map fun coins => coins.map fun coin => (t.recipient, coin)

def ofTransfers (depositor : String) (transfers : List Transfer) :
    Except DecodeError (List (String × Coin)) :=
  ((transfers.filter fun t => t.sender == depositor).mapM ofTransfer).map List.flatten

theorem ofTransfers_append (depositor : String) (front back : List Transfer) :
    ofTransfers depositor (front ++ back) =
      (do
        let first ← ofTransfers depositor front
        let later ← ofTransfers depositor back
        return first ++ later) := by
  simp only [ofTransfers, List.filter_append, List.mapM_append]
  cases (front.filter fun t => t.sender == depositor).mapM ofTransfer with
  | error problem => rfl
  | ok first =>
    cases (back.filter fun t => t.sender == depositor).mapM ofTransfer with
    | error problem => rfl
    | ok later => simp [Except.map, bind, Except.bind, pure, Except.pure]

theorem ofEvent_eq {depositor : String} {e : Event} {transfers : List Transfer}
    (read : Transfer.ofEvent e = .ok transfers) :
    ofEvent depositor e = ofTransfers depositor transfers := by
  rw [ofEvent, read]
  rfl

theorem ofEvents_eq {events : List Event} (readable : Transfer.Readable events)
    (depositor : String) :
    (events.mapM (ofEvent depositor)).map List.flatten =
      ofTransfers depositor (events.flatMap Transfer.listOf) := by
  induction events with
  | nil => rfl
  | cons e rest ih =>
    have later := ih fun x member => readable x (List.mem_cons_of_mem _ member)
    rw [List.flatMap_cons, ofTransfers_append, ← later, List.mapM_cons,
      ofEvent_eq (readable e List.mem_cons_self)]
    cases ofTransfers depositor (Transfer.listOf e) with
    | error problem => rfl
    | ok own =>
      cases rest.mapM (ofEvent depositor) with
      | error problem => rfl
      | ok others => rfl

def listed (depositor : String) (l : LogEntry) : Except DecodeError (List (String × Coin)) :=
  ((l.ofKind "transfer").mapM (ofEvent depositor)).map List.flatten

theorem read_some (message : Json) (l : LogEntry) :
    read message (some l) =
      (do
        let (proposer, depositor) ← body bodyOfJson? message
        let depositor := if depositor = "" then proposer else depositor
        let deposits ← listed depositor l
        return ⟨depositor, deposits⟩) := by
  cases parties : body bodyOfJson? message with
  | error problem => rw [read, parties]; rfl
  | ok both =>
    obtain ⟨proposer, depositor⟩ := both
    cases lists : (l.ofKind "transfer").mapM
        (ofEvent (if depositor = "" then proposer else depositor)) with
    | error problem =>
      simp only [read, listed, parties, lists, bind, Except.bind, Except.map]
    | ok found =>
      simp only [read, listed, parties, lists, bind, Except.bind, Except.map]

end ProposalDeposit

theorem deposit_readsMerged (messageType : String) :
    ReadsMerged (ProposalDeposit.decoder messageType) := by
  refine readsMerged_make fun message entry separable => ?_
  have listed (depositor : String) :
      ProposalDeposit.listed depositor entry.merged = ProposalDeposit.listed depositor entry :=
    Transfer.merged_eq separable fun events readable =>
      ProposalDeposit.ofEvents_eq readable depositor
  simp only [ProposalDeposit.read_some, listed]

/-! ### New pools -/

section
open Pool

theorem createByCoinEvents_seesNoMerge : SeesNoMerge createByCoinEvents := by
  intro typeUrl message entry separable
  simp only [createByCoinEvents, coinsSpent_merged separable, coinsReceived_merged separable]

theorem createByTransfers_seesNoMerge : SeesNoMerge createByTransfers := by
  intro typeUrl message entry separable
  simp only [createByTransfers, Transfer.foldAll_merged _ _ separable]

theorem pool_readsMerged {read : Pool.Reader} (alike : SeesNoMerge read)
    (messageType name : String) : ReadsMerged (Pool.decoder messageType name read) :=
  readsMerged_make fun message entry separable =>
    requireAction_merged separable (alike messageType message entry separable)

theorem liquidity_seesNoMerge {read : LiquidityReader} (alike : SeesNoMerge read) (side : Side) :
    SeesNoMerge (liquidity side read) := by
  intro typeUrl message entry separable
  rw [liquidity, liquidity, alike typeUrl message entry separable]

/-- The readers of new pools see no merge; the others are not for messages of these types. -/
theorem liquidityReaders_seeNoMerge :
    ∀ entry ∈ liquidityReaders, entry.1 ∈ flowTypes → SeesNoMerge entry.2.2.2 := by
  have join : joinPoolType ∉ flowTypes := by decide
  have exitShares : exitSharesType ∉ flowTypes := by decide
  have exitToken : exitTokenType ∉ flowTypes := by decide
  have exitPool : exitPoolType ∉ flowTypes := by decide
  have coinEvents := createByCoinEvents_seesNoMerge
  have transfers := createByTransfers_seesNoMerge
  simp only [liquidityReaders, List.forall_mem_cons]
  exact ⟨fun flow => absurd flow join, fun flow => absurd flow exitShares,
    fun flow => absurd flow exitToken, fun flow => absurd flow exitPool,
    fun flow => absurd flow exitPool, fun _ => coinEvents, fun _ => transfers,
    fun _ => coinEvents, fun _ => transfers, fun _ => coinEvents, fun _ => transfers,
    List.forall_mem_nil _⟩

end

/-! ### The registry -/

theorem families_readMerged (contracts : Contract.Registry) :
    Families contracts fun d => d.messageType ∈ flowTypes → ReadsMerged d := by
  have withdrawals : ∀ t ∈ [withdrawRewardType, withdrawCommissionType], t ∉ flowTypes := by decide
  have supplies : ∀ change, (Supply.decoder change).messageType ∉ flowTypes := by
    intro change
    cases change with
    | mint => decide
    | burn => decide
  have swaps : ∀ entry ∈ Pool.swapReaders, entry.1 ∉ flowTypes := by decide
  have routes : ∀ entry ∈ Pool.Routed.readers, entry.1 ∉ flowTypes := by decide
  have requests : ∀ request : Pool.Batch.Request, request.messageType ∉ flowTypes := by
    intro request
    cases request with
    | deposit => decide
    | withdrawal => decide
    | swap => decide
  have execution : Contract.executeType ∉ flowTypes := by decide
  exact {
    send := fun flow => absurd flow (by decide)
    multiSend := fun flow => absurd flow (by decide)
    withdrawal := fun t member flow => absurd flow (withdrawals t member)
    gift := fun flow => absurd flow (by decide)
    deposit := fun t _ _ => deposit_readsMerged t
    delegation := fun t _ _ => delegation_readsMerged t
    outgoing := fun flow => absurd flow (by decide)
    incoming := fun flow => absurd flow (by decide)
    refund := fun flow => absurd flow (by decide)
    supply := fun change flow => absurd flow (supplies change)
    swap := fun entry member flow => absurd flow (swaps entry member)
    liquidity := fun entry member flow =>
      pool_readsMerged (liquidity_seesNoMerge (liquidityReaders_seeNoMerge entry member flow) _) _ _
    routed := fun entry member flow => absurd flow (routes entry member)
    position := fun entry _ _ => position_readsMerged entry.1 entry.2.1 entry.2.2
    validatorSet := fun t _ _ => validatorSet_readsMerged t
    batch := fun request flow => absurd flow (requests request)
    contract := fun flow => absurd flow execution }

/-- Messages whose decoders read coins and transfers are decoded alike, with the same error where
they are refused, whether the events of the log are merged or not. -/
theorem decode_merged (contracts : Contract.Registry) {typeUrl : String}
    (flow : typeUrl ∈ flowTypes) (message : Json) {entry : LogEntry}
    (separable : entry.Separable) :
    (Registry.standard contracts).decode typeUrl message (some entry.merged) =
      (Registry.standard contracts).decode typeUrl message (some entry) := by
  refine Registry.standard_decode_congr fun d known kind => ?_
  subst kind
  exact (families_readMerged contracts).all d known flow message entry separable

/-- The log of a delegation that pays rewards in two events. -/
def rewardLog : LogEntry where
  events := [
    ⟨"message", [⟨"action", delegateType⟩]⟩,
    ⟨"coin_received", [⟨"receiver", "osmo1d"⟩, ⟨"amount", "5uosmo"⟩]⟩,
    ⟨"transfer", [⟨"recipient", "osmo1d"⟩, ⟨"sender", "osmo1v"⟩, ⟨"amount", "5uosmo"⟩]⟩,
    ⟨"message", [⟨"sender", "osmo1v"⟩]⟩,
    ⟨"coin_received", [⟨"receiver", "osmo1d"⟩, ⟨"amount", "3uatom"⟩]⟩]

theorem decode_merged_of_rewards :
    delegateType ∈ flowTypes ∧ rewardLog.Separable ∧
      rewardLog.merged.events.length = 3 ∧
      (Registry.standard {}).decode delegateType (.obj [("delegator_address", .str "osmo1d")])
          (some rewardLog.merged) =
        (Registry.standard {}).decode delegateType (.obj [("delegator_address", .str "osmo1d")])
          (some rewardLog) := by
  have flow : delegateType ∈ flowTypes := List.mem_cons_self
  have separable : rewardLog.Separable := by decide
  exact ⟨flow, separable, rfl, decode_merged {} flow _ separable⟩

end TaxLedger.Message
