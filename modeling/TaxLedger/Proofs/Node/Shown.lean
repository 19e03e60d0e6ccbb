import Mathlib.Algebra.Order.Floor.Div
import TaxLedger.Proofs.Node.Pages
import TaxLedger.Proofs.Text.Digits

/-!
Lists of transactions that a node shows in pages. All of such a list is read, with one request for each page
(`txsAtHeight_complete`).
-/

namespace TaxLedger

/-- The page that shows of a list what is behind the first `offset`, and reports the length of it all. -/
structure TxPage.Shows (p : TxPage) (all : List Transaction) (offset : Nat) : Prop where
  signed : p.signed = ((all.drop offset).take pageLimit).map (·.signed)
  results : p.results = ((all.drop offset).take pageLimit).map (·.result)
  total : p.reported = all.length

namespace TxPage.Shows

variable {p : TxPage} {all : List Transaction} {offset : Nat}

theorem isMatched (shows : p.Shows all offset) : p.isMatched = true := by
  rw [TxPage.isMatched, shows.signed, shows.results, List.length_map, List.length_map, beq_self_eq_true]

theorem transactions (shows : p.Shows all offset) :
    p.transactions = (all.drop offset).take pageLimit := by
  rw [TxPage.transactions, shows.signed, shows.results, List.zipWith_map, List.zipWith_self]
  exact List.map_id _

theorem done_append (shows : p.Shows all offset) :
    all.take offset ++ p.transactions = all.take (offset + pageLimit) := by
  rw [shows.transactions, List.take_add]

/-- Nothing is left behind a page exactly if it reaches the end of the list. -/
theorem isLast_iff (shows : p.Shows all offset) (listed : p.listed = p.reported) :
    p.isLast (all.take offset ++ p.transactions).length = true ↔ all.length ≤ offset + pageLimit := by
  rw [shows.done_append, isLast, Bool.or_eq_true, decide_eq_true_eq, decide_eq_true_eq, listed,
    shows.total, shows.signed, List.length_map, List.length_take, List.length_take, List.length_drop]
  have limit : 0 < pageLimit := by decide
  omega

end TxPage.Shows

namespace Node

variable {ν : Type} {node : Node ν} {height : Int} {start n : ν} {all : List Transaction}

/-- A node that shows all of the list at every offset, whatever it was asked before. -/
def ShowsAll (node : Node ν) (height : Int) (start : ν) (all : List Transaction) : Prop :=
  ∀ n offset, node.Reaches start n →
    ∃ page n', (node.txPage height offset).on n = some (.ok page, n') ∧ page.Shows all offset

/-- The number of pages of a list; an empty list has one. -/
def pageCount (length : Nat) : Nat := max 1 (length ⌈/⌉ pageLimit)

theorem lt_pageCount_iff {length i : Nat} :
    i < pageCount length ↔ i = 0 ∨ pageLimit * i < length := by
  rw [pageCount, Nat.ceilDiv_eq_add_pred_div, pageLimit]
  omega

theorem listed_of_txPage {offset : Nat} {page : TxPage} {n' : ν}
    (given : (node.txPage height offset).on n = some (.ok page, n')) : page.listed = page.reported := by
  rw [txPage_on] at given
  obtain ⟨read, _⟩ := Prod.mk.inj (Option.some.inj given)
  exact listed_of_pageIn node read

theorem Reaches.txPage {offset : Nat} {outcome : Except NodeError TxPage} {n' : ν}
    (reached : node.Reaches start n) (came : (node.txPage height offset).on n = some (outcome, n')) :
    node.Reaches start n' := by
  cases came
  exact .asked _ reached

theorem mul_le_of_lt_pageCount {length i : Nat} (within : i < pageCount length) :
    pageLimit * i ≤ length := by
  rcases lt_pageCount_iff.mp within with rfl | inside
  · exact Nat.zero_le _
  · exact inside.le

/-- With one page more the list is there, or the next page is asked for. -/
theorem txsBehind_turn (shows : node.ShowsAll height start all) (reached : node.Reaches start n) {i : Nat}
    (inside : pageLimit * i ≤ all.length) (log : List (Request × Reply)) :
    ∃ n' reply, node.Reaches start n' ∧
      (node.recorded.txsBehind height (all.take (pageLimit * i))).on (n, log) =
        if all.length ≤ pageLimit * (i + 1) then
          some (.ok all, (n', log ++ [(txRequest height (pageLimit * i), reply)]))
        else (node.recorded.txsBehind height (all.take (pageLimit * (i + 1)))).on
          (n', log ++ [(txRequest height (pageLimit * i), reply)]) := by
  obtain ⟨page, n', given, shown⟩ := shows n (pageLimit * i) reached
  let reply := (node.ask (txRequest height (pageLimit * i)) n).1
  have noted : (node.recorded.txPage height (all.take (pageLimit * i)).length).on (n, log) =
      some (.ok page, (n', log ++ [(txRequest height (pageLimit * i), reply)])) := by
    rw [List.length_take_of_le inside, recorded_txPage_on, given]
    rfl
  have turn : (node.recorded.txsBehind height (all.take (pageLimit * i))).on (n, log) = _ :=
    TxPage.collectFrom_given noted
  refine ⟨n', reply, reached.txPage given, ?_⟩
  have last := shown.isLast_iff (listed_of_txPage given)
  have joined := shown.done_append
  rw [turn, if_pos shown.isMatched, Nat.mul_succ]
  by_cases ends : all.length ≤ pageLimit * i + pageLimit
  · rw [if_pos (last.mpr ends), if_pos ends, joined, List.take_of_length_le ends]
  · rw [if_neg (last.not.mpr ends), if_neg ends, joined]
    rfl

/-- One page is asked for after another, until the end of the list. -/
theorem txsBehind_shown (shows : node.ShowsAll height start all) {i left : Nat}
    (pages : i + (left + 1) = pageCount all.length) (reached : node.Reaches start n)
    (log : List (Request × Reply)) :
    ∃ final exchanges,
      (node.recorded.txsBehind height (all.take (pageLimit * i))).on (n, log) =
        some (.ok all, (final, log ++ exchanges)) ∧
      exchanges.map Prod.fst =
        (List.range' i (left + 1)).map fun j => txRequest height (pageLimit * j) := by
  have inside : pageLimit * i ≤ all.length := mul_le_of_lt_pageCount (by omega)
  induction left generalizing i n log with
  | zero =>
    obtain ⟨n', reply, _, turn⟩ := txsBehind_turn shows reached inside log
    have ends : all.length ≤ pageLimit * (i + 1) := by
      have last := lt_pageCount_iff.not.mp (show ¬i + 1 < pageCount all.length by omega)
      omega
    rw [turn, if_pos ends]
    exact ⟨n', [_], rfl, rfl⟩
  | succ left ih =>
    obtain ⟨n', reply, reached', turn⟩ := txsBehind_turn shows reached inside log
    have goesOn : ¬all.length ≤ pageLimit * (i + 1) := by
      have more := lt_pageCount_iff.mp (show i + 1 < pageCount all.length by omega)
      omega
    obtain ⟨final, exchanges, ended, requests⟩ := ih (i := i + 1) (by omega) reached' _
      (by omega)
    rw [turn, if_neg goesOn, ended]
    refine ⟨final, (txRequest height (pageLimit * i), reply) :: exchanges, ?_, ?_⟩
    · rw [List.append_assoc, List.singleton_append]
    · rw [List.range'_succ (s := i), List.map_cons, List.map_cons, requests]

/-- From a node that shows a list of transactions in pages the whole list is read, each transaction with its
own result, and each page is asked for once. -/
theorem txsAtHeight_complete (shows : node.ShowsAll height start all) :
    ∃ final log,
      (node.txsAtHeight height).on start = some (.ok all, final) ∧
      (node.recorded.txsAtHeight height).on (start, []) = some (.ok all, (final, log)) ∧
      log.map Prod.fst =
        (List.range (pageCount all.length)).map fun i => txRequest height (pageLimit * i) := by
  have filled : 0 < pageCount all.length := lt_pageCount_iff.mpr (.inl rfl)
  obtain ⟨left, count⟩ := Nat.exists_eq_add_one.mpr filled
  obtain ⟨final, log, noted, requests⟩ :=
    txsBehind_shown shows (i := 0) (by rw [count, Nat.zero_add]) .start []
  refine ⟨final, log, txsBehind_of_recorded noted, noted, ?_⟩
  rw [requests, count, List.range_eq_range']

/-! ### A node with many transactions -/

/-- So many empty records in print, from behind the first bracket of the list on. -/
def printedItems : Nat → List Char
  | 0 => ['[', ']', ']']
  | k + 1 => '[' :: ']' :: ',' :: printedItems k

def printedRecords : Nat → List Char
  | 0 => ['[', ']']
  | k + 1 => '[' :: printedItems k

theorem value?_empty {fuel depth : Nat} (shallow : depth + 1 < Json.depthLimit) (rest : List Char) :
    Json.value? (fuel + 1) depth ('[' :: ']' :: rest) = some (.arr [], rest) := by
  simp [Json.value?, Json.skipSpace, Json.isSpace, shallow]

theorem items?_cons {fuel depth : Nat} {cs rest : List Char} {v : Json}
    (read : Json.value? fuel depth cs = some (v, ',' :: rest)) :
    Json.items? (fuel + 1) depth cs =
      (Json.items? fuel depth rest).map fun (vs, rest) => (v :: vs, rest) := by
  rw [Json.items?, read]
  simp [Json.skipSpace, Json.isSpace]

theorem items?_printed {fuel depth k : Nat} (enough : k + 2 ≤ fuel)
    (shallow : depth + 1 < Json.depthLimit) (rest : List Char) :
    Json.items? fuel depth (printedItems k ++ rest) = some (List.replicate (k + 1) (.arr []), rest) := by
  induction k generalizing fuel with
  | zero =>
    obtain ⟨fuel, rfl⟩ := Nat.exists_eq_add_of_le' enough
    simp [printedItems, Json.items?, value?_empty shallow, Json.skipSpace, Json.isSpace]
  | succ k ih =>
    obtain ⟨fuel, rfl⟩ := Nat.exists_eq_add_of_le' (show 2 ≤ fuel by omega)
    have read : Json.value? (fuel + 1) depth (printedItems (k + 1) ++ rest) =
        some (.arr [], ',' :: (printedItems k ++ rest)) := value?_empty shallow _
    rw [items?_cons read, ih (by omega)]
    rfl

theorem value?_printed {fuel depth k : Nat} (enough : k + 2 ≤ fuel)
    (shallow : depth + 2 < Json.depthLimit) (rest : List Char) :
    Json.value? fuel depth (printedRecords k ++ rest) =
      some (.arr (List.replicate k (.arr [])), rest) := by
  obtain ⟨fuel, rfl⟩ := Nat.exists_eq_add_of_le' (show 1 ≤ fuel by omega)
  cases k with
  | zero => exact value?_empty (by omega) rest
  | succ k =>
    have items : Json.items? fuel (depth + 1) (printedItems k ++ rest) = _ :=
      items?_printed (by omega) (by omega) rest
    obtain ⟨more, opened⟩ : ∃ more, printedItems k ++ rest = '[' :: more := by
      cases k <;> exact ⟨_, rfl⟩
    have shallow' : depth + 1 < Json.depthLimit := by omega
    rw [printedRecords, List.cons_append, Json.value?]
    rw [opened] at items ⊢
    simp [Json.skipSpace, Json.isSpace, items, shallow']

def printedPage (k : Nat) : String :=
  String.ofList ('[' :: (printedRecords k ++ ',' :: (printedRecords k ++ ",null,101]".toList)))

theorem length_printedRecords (k : Nat) : k + 2 ≤ (printedRecords k).length := by
  have items (k : Nat) : k + 3 ≤ (printedItems k).length := by
    induction k with
    | zero => exact Nat.le_refl _
    | succ k ih =>
      simp only [printedItems, List.length_cons]
      omega
  cases k with
  | zero => exact Nat.le_refl _
  | succ k => exact Nat.le_succ_of_le (items k)

theorem parse?_printedPage (k : Nat) :
    Json.parse? (printedPage k) = some (.arr [.arr (List.replicate k (.arr [])),
      .arr (List.replicate k (.arr [])), .null, .int 101]) := by
  have long := length_printedRecords k
  obtain ⟨fuel, same⟩ := Nat.exists_eq_add_of_le'
    (show k + 6 ≤ 2 * (printedPage k).toList.length + 2 by
      simp only [printedPage, String.toList_ofList, List.length_cons, List.length_append]
      omega)
  let list := Json.arr (List.replicate k (.arr []))
  have tail : Json.items? (fuel + k + 3) 1 "null,101]".toList = some ([.null, .int 101], []) := by
    cbv
  have second : Json.items? (fuel + k + 4) 1 (printedRecords k ++ ",null,101]".toList) =
      some ([list, .null, .int 101], []) := by
    have read : Json.value? (fuel + k + 3) 1 (printedRecords k ++ ",null,101]".toList) =
        some (list, ',' :: "null,101]".toList) := value?_printed (by omega) (by decide) _
    rw [items?_cons read, tail]
    rfl
  have items : Json.items? (fuel + k + 5) 1
      (printedRecords k ++ ',' :: (printedRecords k ++ ",null,101]".toList)) =
        some ([list, list, .null, .int 101], []) := by
    rw [items?_cons (value?_printed (by omega) (by decide) _), second]
    rfl
  obtain ⟨more, opened⟩ :
      ∃ more, printedRecords k ++ ',' :: (printedRecords k ++ ",null,101]".toList) = '[' :: more := by
    cases k <;> exact ⟨_, rfl⟩
  rw [Json.parse?, same, printedPage, String.toList_ofList]
  rw [opened] at items ⊢
  simp [Json.value?, Json.skipSpace, Json.isSpace, ← Nat.add_assoc, items, Json.depthLimit, list]

def pageOf (k : Nat) : TxPage := ⟨List.replicate k {}, List.replicate k {}, none, 101⟩

theorem ofJson?_printedPage (k : Nat) :
    TxPage.ofJson? (.arr [.arr (List.replicate k (.arr [])), .arr (List.replicate k (.arr [])), .null,
      .int 101]) = some (pageOf k) := by
  have list {α : Type} (read : Json → Option α) (a : α) (reads : read (.arr []) = some a) :
      Json.readList read (.arr (List.replicate k (.arr []))) = some (List.replicate k a) := by
    rw [Json.readList]
    induction k with
    | zero => rfl
    | succ k ih => rw [List.replicate_succ, List.mapM_cons, reads, ih]; rfl
  have signed := list SignedTx.ofJson? {} rfl
  have results := list TxResult.ofJson? {} rfl
  simp [TxPage.ofJson?, Json.record?, Json.recordWith?, Json.withDefault, signed, results,
    Json.nullable, Json.readCount, Json.readInt64, Json.readInt, int64Min, int64Max, pageOf]

/-- A node that shows 101 transactions at every height, as many of them as a page may have. -/
def ofMany : Node Unit where
  procedures := ""
  resources := ""
  ask request _ :=
    let offset := ((request.query.lookup "pagination.offset").bind fun s =>
      Text.intOfChars? s.toList).getD 0
    (.answered 200 (printedPage (min pageLimit (101 - offset.toNat))), ())

theorem ofMany_shows : ofMany.ShowsAll 5 () (List.replicate 101 ⟨{}, {}⟩) := by
  intro _ offset _
  let shown := min pageLimit (101 - offset)
  have written : (txRequest 5 offset).query.lookup "pagination.offset" =
      some (toString (offset : Int)) := rfl
  have asked : (ofMany.ask (txRequest 5 offset) ()).1 = .answered 200 (printedPage shown) := by
    simp only [ofMany, written, Option.bind_some, Text.intOfChars?_toString, Option.getD_some,
      Int.toNat_natCast, shown]
  have brought : ofMany.pageIn (txRequest 5 offset, .answered 200 (printedPage shown)) =
      .ok (pageOf shown) := by
    have unmarked : Reply.bodyText (printedPage shown) = printedPage shown := by
      simp [Reply.bodyText, printedPage]
    exact pageIn_answered _ unmarked (parse?_printedPage shown) (ofJson?_printedPage shown)
  refine ⟨pageOf shown, (), ?_, ?_, ?_, rfl⟩
  · rw [txPage_on, asked, brought]
  · simp only [pageOf, List.drop_replicate, List.take_replicate, List.map_replicate, shown]
  · simp only [pageOf, List.drop_replicate, List.take_replicate, List.map_replicate, shown]

/-- Two pages are asked for, and all 101 transactions are there. -/
theorem txsAtHeight_complete_of_many :
    ofMany.ShowsAll 5 () (List.replicate 101 ⟨{}, {}⟩) ∧
      ∃ log, (ofMany.txsAtHeight 5).on () = some (.ok (List.replicate 101 ⟨{}, {}⟩), ()) ∧
        (ofMany.recorded.txsAtHeight 5).on ((), []) =
          some (.ok (List.replicate 101 ⟨{}, {}⟩), ((), log)) ∧
        log.map Prod.fst = [txRequest 5 0, txRequest 5 100] := by
  obtain ⟨_, log, read, noted, requests⟩ := txsAtHeight_complete ofMany_shows
  exact ⟨ofMany_shows, log, read, noted, requests⟩

end Node

end TaxLedger
