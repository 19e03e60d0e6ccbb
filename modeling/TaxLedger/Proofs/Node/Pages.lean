import TaxLedger.Proofs.Node.Listing

/-!
Transactions in pages, from a node that may answer anything. Reading them always ends. It ends with fewer
than the last page reports exactly if that page is short: then it is taken for the end of the list
(`txsAtHeight_ends`).
-/

namespace TaxLedger

/-! ### Totals -/

/-- The total of the pagination where it is positive, and the one beside it where it is not. -/
def TxPage.reported (p : TxPage) : Int :=
  let inPage := (p.page.map (·.total)).getD 0
  if 0 < inPage then inPage else p.total

theorem Json.readCount_le {v : Json} {n : Int} (read : readCount v = some n) : n ≤ int64Max := by
  have within {v : Json} (read : readInt64 v = some n) : n ≤ int64Max := by
    unfold readInt64 readInt at read
    split at read
    · split at read
      · rename_i bounds
        cases read
        exact of_decide_eq_true (Bool.and_eq_true_iff.mp bounds).2
      · cases read
    · cases read
  unfold readCount at read
  split at read
  · cases read
    decide
  · split at read
    · cases read
      decide
    · obtain ⟨_, bounds⟩ := Option.filter_eq_some_iff.mp read
      exact of_decide_eq_true (Bool.and_eq_true_iff.mp bounds).2
  · exact within read

/-- What holds of the fallback and of all that is read holds of the value of a field. -/
theorem Json.withDefault_holds {α : Type} {P : α → Prop} {fallback : α} {read : Json → Option α}
    (otherwise : P fallback) (holds : ∀ v a, read v = some a → P a) {field : Option Json} {a : α}
    (taken : withDefault fallback read field = some a) : P a := by
  cases field with
  | none =>
    cases taken
    exact otherwise
  | some v => exact holds v a taken

theorem Json.nullable_holds {α : Type} {P : α → Prop} {read : Json → Option α}
    (holds : ∀ v a, read v = some a → P a) {v : Json} {value : Option α}
    (taken : nullable read v = some value) : ∀ a, value = some a → P a := by
  rintro a rfl
  unfold nullable at taken
  split at taken
  · cases taken
  · obtain ⟨b, found, same⟩ := Option.map_eq_some_iff.mp taken
    cases same
    exact holds _ a found

theorem PageInfo.total_le {v : Json} {info : PageInfo} (read : PageInfo.ofJson? v = some info) :
    info.total ≤ int64Max := by
  unfold PageInfo.ofJson? at read
  split at read
  · simp only [Option.bind_eq_bind, Option.bind_eq_some_iff] at read
    obtain ⟨_, _, total, counted, same⟩ := read
    cases same
    exact Json.withDefault_holds (P := (· ≤ int64Max)) (by decide) (fun _ _ => Json.readCount_le) counted
  · cases read

namespace TxPage

theorem listed_eq_reported {v : Json} {p : TxPage} (read : ofJson? v = some p) :
    p.listed = p.reported := by
  refine Int.min_eq_left ?_
  unfold ofJson? at read
  split at read
  · simp only [Option.bind_eq_bind, Option.bind_eq_some_iff] at read
    obtain ⟨_, _, _, _, page, paged, total, counted, same⟩ := read
    cases same
    have beside : total ≤ int64Max :=
      Json.withDefault_holds (P := (· ≤ int64Max)) (by decide) (fun _ _ => Json.readCount_le) counted
    have inside : ∀ info, page = some info → info.total ≤ int64Max :=
      Json.withDefault_holds (P := fun page => ∀ info, page = some info → info.total ≤ int64Max) nofun
        (fun _ _ => Json.nullable_holds fun _ _ => PageInfo.total_le) paged
    cases page with
    | none => exact beside
    | some info =>
      dsimp only [Option.map_some, Option.getD_some]
      split
      · exact inside info rfl
      · exact beside
  · cases read

/-! ### Turns of the loop -/

section
variable {σ : Type} {refuse : TxPage → NodeError} {fetch : Nat → Work σ NodeError TxPage}
  {done : List Transaction} {page : TxPage} {s t : σ}

theorem collectFrom_failed {e : NodeError} (failed : (fetch done.length).on s = some (.error e, t)) :
    (collectFrom refuse fetch done).on s = some (.error e, t) := by
  rw [collectFrom]
  simp only [Work.on, ExceptT.run, ExceptT.mk, StateT.run] at failed ⊢
  rw [failed]

theorem collectFrom_given (given : (fetch done.length).on s = some (.ok page, t)) :
    (collectFrom refuse fetch done).on s =
      if page.isMatched then
        if page.isLast (done ++ page.transactions).length then some (.ok (done ++ page.transactions), t)
        else (collectFrom refuse fetch (done ++ page.transactions)).on t
      else some (.error (refuse page), t) := by
  rw [collectFrom]
  simp only [Work.on, ExceptT.run, ExceptT.mk, StateT.run] at given ⊢
  rw [given]
  simp only [dite_eq_ite]

/-- Induction along the turns: behind a page that is not the last one, less is left to come. -/
theorem turns_induction {P : List Transaction → Prop}
    (turn : ∀ done, (∀ page : TxPage, page.isMatched = true →
      page.isLast (done ++ page.transactions).length = false → P (done ++ page.transactions)) → P done)
    (done : List Transaction) : P done := by
  induction left : int64Max.toNat - done.length using Nat.strongRecOn generalizing done with
  | _ left ih =>
    refine turn done fun page matched goesOn => ih _ ?_ _ rfl
    have ⟨full, below⟩ := count_lt_of_not_isLast goesOn
    have grown : (done ++ page.transactions).length = done.length + page.signed.length := by
      rw [List.length_append, length_transactions matched]
    rw [pageLimit] at full
    rw [int64Max] at below left ⊢
    omega

end

end TxPage

/-! ### Records -/

namespace Node

variable {ν : Type}

/-- The same node with a record of what it was asked for and what came back. -/
def recorded (node : Node ν) : Node (ν × List (Request × Reply)) where
  procedures := node.procedures
  resources := node.resources
  ask request := fun (n, log) =>
    let (reply, n') := node.ask request n
    (reply, (n', log ++ [(request, reply)]))

def pageIn (node : Node ν) (exchange : Request × Reply) : Except NodeError TxPage :=
  exchange.2.read (node.url exchange.1.service exchange.1.path) TxPage.ofJson?

variable (node : Node ν) (height : Int)

theorem txPage_on (offset : Nat) (n : ν) :
    (node.txPage height offset).on n =
      some (node.pageIn (txRequest height offset, (node.ask (txRequest height offset) n).1),
        (node.ask (txRequest height offset) n).2) := rfl

theorem recorded_txPage_on (offset : Nat) (n : ν) (log : List (Request × Reply)) :
    (node.recorded.txPage height offset).on (n, log) =
      ((node.txPage height offset).on n).map fun (result, n') =>
        (result, (n', log ++ [(txRequest height offset, (node.ask (txRequest height offset) n).1)])) :=
  rfl

theorem pageIn_answered {request : Request} {body : String} {value : Json} {page : TxPage}
    (unmarked : Reply.bodyText body = body) (parsed : Json.parse? body = some value)
    (read : TxPage.ofJson? value = some page) : node.pageIn (request, .answered 200 body) = .ok page := by
  simp [pageIn, Reply.read, Reply.hasBody, unmarked, parsed, read]

theorem listed_of_pageIn {exchange : Request × Reply} {page : TxPage}
    (read : node.pageIn exchange = .ok page) : page.listed = page.reported := by
  unfold pageIn Reply.read at read
  split at read
  · cases read
  · dsimp only at read
    split at read
    · split at read
      · rename_i found
        cases read
        obtain ⟨v, _, read⟩ := Option.bind_eq_some_iff.mp found
        exact TxPage.listed_eq_reported read
      · cases read
    · cases read

/-- What is made of a page with more or less results than transactions. -/
def refusal (page : TxPage) : NodeError :=
  .malformed (node.url .resources txsPath) (some (page.mismatch height))

def txsBehind (done : List Transaction) : Work ν NodeError (List Transaction) :=
  TxPage.collectFrom (node.refusal height) (node.txPage height) done

/-- How the reading of pages ends behind `done`, by what the requests have brought. -/
inductive Outcome (done : List Transaction) :
    List (Except NodeError TxPage) → Except NodeError (List Transaction) → Prop
  | failed (pages : List TxPage) (e : NodeError) :
      Outcome done (pages.map .ok ++ [.error e]) (.error e)
  | mismatched (front : List TxPage) {last : TxPage} (unmatched : last.isMatched = false) :
      Outcome done ((front ++ [last]).map .ok) (.error (node.refusal height last))
  | complete (front : List TxPage) {last : TxPage} (matched : last.isMatched = true)
      (ends : last.isLast (done ++ (front ++ [last]).flatMap (·.transactions)).length = true) :
      Outcome done ((front ++ [last]).map .ok)
        (.ok (done ++ (front ++ [last]).flatMap (·.transactions)))

variable {node height}

theorem Outcome.behind {done : List Transaction} {page : TxPage}
    {brought : List (Except NodeError TxPage)} {result : Except NodeError (List Transaction)}
    (later : node.Outcome height (done ++ page.transactions) brought result) :
    node.Outcome height done (.ok page :: brought) result := by
  cases later with
  | failed pages e => exact .failed (page :: pages) e
  | mismatched front unmatched => exact .mismatched (page :: front) unmatched
  | @complete front last matched ends =>
    rw [List.append_assoc] at ends ⊢
    exact .complete (page :: front) matched ends

/-- Every reading of pages ends, and the record does not change it. -/
theorem txsBehind_ends (done : List Transaction) (n : ν) (log : List (Request × Reply)) :
    ∃ result final exchanges,
      (node.txsBehind height done).on n = some (result, final) ∧
      (node.recorded.txsBehind height done).on (n, log) = some (result, (final, log ++ exchanges)) ∧
      node.Outcome height done (exchanges.map node.pageIn) result := by
  induction done using TxPage.turns_induction generalizing n log with
  | turn done ih =>
    let exchange := (txRequest height done.length, (node.ask (txRequest height done.length) n).1)
    let n' := (node.ask (txRequest height done.length) n).2
    have asked : (node.txPage height done.length).on n = some (node.pageIn exchange, n') := rfl
    have noted : (node.recorded.txPage height done.length).on (n, log) =
        some (node.pageIn exchange, (n', log ++ [exchange])) := rfl
    cases brought : node.pageIn exchange with
    | error e =>
      rw [brought] at asked noted
      refine ⟨.error e, n', [exchange], TxPage.collectFrom_failed asked,
        TxPage.collectFrom_failed noted, ?_⟩
      rw [List.map_singleton, brought]
      exact .failed [] e
    | ok page =>
      rw [brought] at asked noted
      have turn : (node.txsBehind height done).on n = _ := TxPage.collectFrom_given asked
      have notedTurn : (node.recorded.txsBehind height done).on (n, log) = _ :=
        TxPage.collectFrom_given noted
      rw [turn, notedTurn]
      by_cases matched : page.isMatched = true
      · rw [if_pos matched, if_pos matched]
        by_cases ends : page.isLast (done ++ page.transactions).length = true
        · have single : [page].flatMap (·.transactions) = page.transactions := List.flatMap_singleton ..
          rw [if_pos ends, if_pos ends]
          refine ⟨_, n', [exchange], rfl, rfl, ?_⟩
          rw [List.map_singleton, brought, ← single]
          exact .complete [] matched (single.symm ▸ ends)
        · rw [if_neg ends, if_neg ends]
          obtain ⟨result, final, exchanges, ended, notedEnd, outcome⟩ :=
            ih page matched (Bool.not_eq_true _ ▸ ends) n' (log ++ [exchange])
          refine ⟨result, final, exchange :: exchanges, ended, ?_, ?_⟩
          · rw [← List.append_cons] at notedEnd
            exact notedEnd
          · rw [List.map_cons, brought]
            exact outcome.behind
      · rw [if_neg matched, if_neg matched]
        refine ⟨.error (node.refusal height page), n', [exchange], rfl, rfl, ?_⟩
        rw [List.map_singleton, brought]
        exact .mismatched [] (Bool.not_eq_true _ ▸ matched)

/-- The record takes nothing away and adds nothing. -/
theorem txsBehind_of_recorded {done : List Transaction} {n final : ν} {log log' : List (Request × Reply)}
    {result : Except NodeError (List Transaction)}
    (noted : (node.recorded.txsBehind height done).on (n, log) = some (result, (final, log'))) :
    (node.txsBehind height done).on n = some (result, final) := by
  obtain ⟨_, _, _, ended, same, _⟩ := @txsBehind_ends ν node height done n log
  rw [noted] at same
  cases same
  exact ended

theorem last_of_map_ok {front front' : List TxPage} {last last' : TxPage}
    (same : (front' ++ [last']).map (.ok : TxPage → Except NodeError TxPage) =
      (front ++ [last]).map .ok) :
    front' = front ∧ last' = last := by
  have pages := (List.map_inj_right fun _ _ => Except.ok.inj).mp same
  obtain ⟨fronts, lasts⟩ := List.append_inj' pages rfl
  exact ⟨fronts, List.head_eq_of_cons_eq lasts⟩

theorem listed_of_brought {log : List (Request × Reply)} {front : List TxPage} {last : TxPage}
    (brought : log.map node.pageIn = (front ++ [last]).map .ok) : last.listed = last.reported := by
  have member : Except.ok last ∈ log.map node.pageIn := by
    rw [brought]
    exact List.mem_map_of_mem (List.mem_append_right _ List.mem_cons_self)
  obtain ⟨exchange, _, read⟩ := List.mem_map.mp member
  exact listed_of_pageIn node read

/-- Reading all transactions at a height always ends, and without an error it gives those of all pages that
came. They are fewer than the last page reports exactly if that page is shorter than a page may be and its
total has not been reached: such a page is taken for the last one. -/
theorem txsAtHeight_ends (node : Node ν) (height : Int) (start : ν) :
    ∃ result final log,
      (node.txsAtHeight height).on start = some (result, final) ∧
      (node.recorded.txsAtHeight height).on (start, []) = some (result, (final, log)) ∧
      (∀ all, result = .ok all → ∃ front last, log.map node.pageIn = (front ++ [last]).map .ok ∧
        all = (front ++ [last]).flatMap (·.transactions)) ∧
      ∀ front last, log.map node.pageIn = (front ++ [last]).map .ok →
        ((∃ all, result = .ok all ∧ all.length < last.reported) ↔
          last.isMatched = true ∧ last.signed.length < pageLimit ∧
            ((front ++ [last]).flatMap (·.transactions)).length < last.reported) := by
  obtain ⟨result, final, log, ended, noted, outcome⟩ := @txsBehind_ends ν node height [] start []
  refine ⟨result, final, log, ended, noted, ?_, ?_⟩
  · rintro all rfl
    generalize log.map node.pageIn = brought at outcome ⊢
    cases outcome with
    | complete front matched ends => exact ⟨front, _, rfl, rfl⟩
  · intro front last same
    have listed := listed_of_brought same
    rw [same] at outcome
    generalize brought : (front ++ [last]).map Except.ok = pages at outcome
    cases outcome with
    | failed pages e =>
      have member : Except.error e ∈ (front ++ [last]).map Except.ok := by
        rw [brought]
        exact List.mem_append_right _ List.mem_cons_self
      obtain ⟨_, _, wrong⟩ := List.mem_map.mp member
      cases wrong
    | @mismatched front' last' unmatched =>
      obtain ⟨rfl, rfl⟩ := last_of_map_ok brought.symm
      refine iff_of_false (by rintro ⟨_, ⟨⟩, _⟩) ?_
      rintro ⟨matched, _⟩
      rw [unmatched] at matched
      cases matched
    | @complete front' last' matched ends =>
      obtain ⟨rfl, rfl⟩ := last_of_map_ok brought.symm
      rw [List.nil_append, TxPage.isLast, Bool.or_eq_true, decide_eq_true_eq, decide_eq_true_eq,
        listed] at ends
      constructor
      · rintro ⟨_, ⟨⟩, fewer⟩
        rw [List.nil_append] at fewer
        exact ⟨matched, ends.resolve_right (by omega), fewer⟩
      · rintro ⟨_, _, fewer⟩
        exact ⟨_, rfl, fewer⟩

def ofOneInTwo : Node Unit where
  procedures := ""
  resources := ""
  ask _ _ := (.answered 200 ("\x7b\"txs\":[\x7b\x7d],\"tx_responses\":[\x7b\"txhash\":\"A\"\x7d]," ++
    "\"pagination\":\x7b\"total\":\"2\"\x7d\x7d"), ())

theorem short_page_taken_for_last :
    (ofOneInTwo.txsAtHeight 5).on () = some (.ok [⟨{}, {hash := "A"}⟩], ()) ∧
      ∃ log page, (ofOneInTwo.recorded.txsAtHeight 5).on ((), []) =
          some (.ok [⟨{}, {hash := "A"}⟩], ((), log)) ∧
        log.map ofOneInTwo.pageIn = [.ok page] ∧ page.reported = 2 := by
  let page : TxPage := ⟨[{}], [{hash := "A"}], some {total := 2}, 0⟩
  let exchange := (txRequest 5 0, (ofOneInTwo.ask (txRequest 5 0) ()).1)
  let value : Json :=
    .obj [("txs", .arr [.obj []]), ("tx_responses", .arr [.obj [("txhash", .str "A")]]),
      ("pagination", .obj [("total", .str "2")])]
  have read : ofOneInTwo.pageIn exchange = .ok page := by
    refine pageIn_answered _ ?_ (?_ : _ = some value) rfl
    · cbv
    · cbv
  have asked : (ofOneInTwo.txPage 5 0).on () = some (.ok page, ()) := by
    rw [txPage_on]
    exact congrArg (fun outcome => some (outcome, ())) read
  have noted : (ofOneInTwo.recorded.txPage 5 0).on ((), []) = some (.ok page, ((), [exchange])) := by
    rw [recorded_txPage_on, asked]
    rfl
  have matched : page.isMatched = true := rfl
  have ends : page.isLast 1 = true := rfl
  refine ⟨?_, [exchange], page, ?_, congrArg (fun outcome => [outcome]) read, rfl⟩
  · have turn : (ofOneInTwo.txsAtHeight 5).on () = _ := TxPage.collectFrom_given asked
    rw [turn, if_pos matched]
    exact if_pos ends
  · have turn : (ofOneInTwo.recorded.txsAtHeight 5).on ((), []) = _ := TxPage.collectFrom_given noted
    rw [turn, if_pos matched]
    exact if_pos ends

end Node

end TaxLedger
