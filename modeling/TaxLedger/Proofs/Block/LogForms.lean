import TaxLedger.Proofs.Block.Reading
import TaxLedger.Proofs.Event.FlatForm

/-!
Transactions whose events come in log entries or in a flat list. A node that gives up the log entries
for tagged events, cut and mixed in whatever way, changes nothing in the record of a block
(`flat_form_reads_alike`).
-/

namespace TaxLedger.Block

/-- The transaction as a node gives it that tells its events in a flat list. -/
def flattened (tx : Transaction) (events : List Event) : Transaction :=
  { tx with result := { tx.result with logs := [], events } }

theorem messageLogs_flattened (tx : Transaction) (events : List Event) :
    (flattened tx events).messageLogs = groupByMessage events := rfl

theorem messageLogs_of_logs {tx : Transaction} (logged : tx.result.logs ≠ []) :
    tx.messageLogs = tx.result.logs := by
  rw [Transaction.messageLogs, if_neg]
  rwa [List.isEmpty_iff]

/-- The flat form of a transaction's log entries has the same entries, and a block reads alike with
either, to the last notice. -/
theorem flat_form_reads_alike {tx : Transaction} {events : List Event} (logged : tx.result.logs ≠ [])
    (legacy : LegacyLogs tx.result.logs) (flat : FlatForm tx.result.logs events) :
    (flattened tx events).messageLogs = tx.result.logs ∧
      ∀ (registry : Message.Registry) (readable : String) (header : BlockHeader)
        (before after : List Transaction),
        read registry readable header (before ++ flattened tx events :: after) =
          read registry readable header (before ++ tx :: after) := by
  have gathered : (flattened tx events).messageLogs = tx.result.logs := by
    rw [messageLogs_flattened, groupByMessage_of_flatForm legacy flat]
  refine ⟨gathered, fun registry readable header before after => ?_⟩
  have logs : (flattened tx events).messageLogs = tx.messageLogs :=
    gathered.trans (messageLogs_of_logs logged).symm
  have same : readTx registry readable (flattened tx events) = readTx registry readable tx :=
    readTx_congr registry readable rfl rfl rfl logs
  have hash : (flattened tx events).result.hash = tx.result.hash := rfl
  exact read_replace registry readable hash same header before after

def swapLogs : List LogEntry :=
  [⟨0, [⟨"message", [⟨"action", "swap"⟩]⟩,
      ⟨"token_swapped", [⟨"tokens_in", "5uosmo"⟩, ⟨"tokens_out", "7uion"⟩]⟩]⟩,
    ⟨1, [⟨"transfer", [⟨"recipient", "osmo1r"⟩]⟩]⟩]

def swapTx : Transaction :=
  { signed :=
      { messages :=
          [.obj [("@type", .str "/osmosis.gamm.v1beta1.MsgSwapExactAmountIn")],
            .obj [("@type", .str "/cosmos.bank.v1beta1.MsgSend")]] }
    result := { logs := swapLogs } }

/-- The same events in a flat list: the swap is cut in two with the transfer in between, and a fee
belongs to no message. -/
def swapEvents : List Event :=
  [⟨"tx", [⟨"fee", "1uosmo"⟩]⟩,
    ⟨"message", [⟨"action", "swap"⟩, ⟨messageTag, toString (0 : Int)⟩]⟩,
    ⟨"token_swapped", [⟨messageTag, toString (0 : Int)⟩, ⟨"tokens_in", "5uosmo"⟩]⟩,
    ⟨"transfer", [⟨"recipient", "osmo1r"⟩, ⟨messageTag, toString (1 : Int)⟩]⟩,
    ⟨"token_swapped", [⟨"tokens_out", "7uion"⟩, ⟨messageTag, toString (0 : Int)⟩]⟩]

theorem swapLogs_legacy : LegacyLogs swapLogs where
  sorted := by unfold Sorted; decide
  filled := by decide
  single := by decide
  untagged := by decide

theorem swapEvents_flatForm : FlatForm swapLogs swapEvents := by
  have first := @Tagged.ofDecimal 0 (by decide) (by decide)
  have second := @Tagged.ofDecimal 1 (by decide) (by decide)
  refine ⟨_, .loose (messageIndex?_of_untagged (by decide)) <|
    .piece (first "message" [⟨"action", "swap"⟩] []) <|
    .piece (first "token_swapped" [] [⟨"tokens_in", "5uosmo"⟩]) <|
    .piece (second "transfer" [⟨"recipient", "osmo1r"⟩] []) <|
    .piece (first "token_swapped" [⟨"tokens_out", "7uion"⟩] []) .done, ?_, ?_⟩
  · intro l member
    rcases List.mem_pair.mp member with rfl | rfl
    · exact @Cut.split _ [⟨"message", [⟨"action", "swap"⟩]⟩] [] [] "token_swapped"
        [⟨"tokens_in", "5uosmo"⟩] [⟨"tokens_out", "7uion"⟩] (Cut.whole (by decide)) (by decide)
    · exact Cut.whole (by decide)
  · intro index absent
    have apart := absent _ (List.mem_cons_self)
    have apart' := absent _ (List.mem_cons_of_mem _ List.mem_cons_self)
    simp [Function.update_of_ne (Ne.symm apart), Function.update_of_ne (Ne.symm apart')]

theorem flat_form_reads_alike_of_swap :
    (flattened swapTx swapEvents).messageLogs = swapLogs ∧
      ∀ (registry : Message.Registry) (readable : String) (header : BlockHeader)
        (before after : List Transaction),
        read registry readable header (before ++ flattened swapTx swapEvents :: after) =
          read registry readable header (before ++ swapTx :: after) :=
  flat_form_reads_alike (by decide) swapLogs_legacy swapEvents_flatForm

end TaxLedger.Block
