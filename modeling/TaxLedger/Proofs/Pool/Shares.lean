import Mathlib.Algebra.BigOperators.Group.List.Basic
import TaxLedger.Message.Registry
import TaxLedger.Proofs.Decimal.Value
import TaxLedger.Proofs.Pool.Liquidity

/-!
Shares in the movements of deposits and withdrawals. The movements of a message account for all its
shares exactly if there is a token that the shares are for (`shares_accounted`). Two of the readers let
a message without tokens pass, and lose its shares (`shares_lost`).
-/

namespace TaxLedger.Pool

open Message

/-- Whatever an equal part is rounded to, the last part makes up for it. -/
theorem sum_splitShares {shares : Coin} (whole : shares.IsWhole) {n : Nat} (some : 1 ≤ n) :
    ((splitShares shares n).map Coin.units).sum = shares.units := by
  rw [splitShares_eq whole some]
  simp only [List.map_append, List.map_replicate, List.map_singleton, List.sum_append,
    List.sum_replicate, List.sum_singleton, nsmul_eq_mul, Coin.units, Decimal.ofInt]
  ring

/-! ### Legs -/

def Side.coin? : Side → Movement → Option Coin
  | .deposit => Movement.received?
  | .withdrawal => Movement.sent?

def Side.total (side : Side) (denom : String) (movements : List Movement) : ℚ :=
  (((movements.filterMap side.coin?).filter fun c => c.denom == denom).map fun c =>
    c.amount.toRat).sum

theorem filterMap_zipWith {α β γ : Type} {f : α → β → γ} {g : γ → Option α}
    (first : ∀ a b, g (f a b) = some a) {as : List α} {bs : List β}
    (level : as.length = bs.length) : (List.zipWith f as bs).filterMap g = as := by
  induction as generalizing bs with
  | nil => rfl
  | cons a as ih =>
    cases bs with
    | nil => cases level
    | cons b bs =>
      rw [List.zipWith_cons_cons, List.filterMap_cons_some (first a b), ih (Nat.succ.inj level)]

theorem coins_legs (l : Liquidity) (side : Side) :
    (l.legs side).filterMap side.coin? = splitShares l.shares l.tokens.length := by
  have level := length_splitShares l.shares l.tokens.length
  cases side with
  | deposit =>
    have first : ∀ part token,
        Side.deposit.coin? (Movement.swap l.account token part) = some part := fun _ _ => rfl
    exact filterMap_zipWith first level
  | withdrawal =>
    have first : ∀ part token,
        Side.withdrawal.coin? (Movement.swap l.account part token) = some part := fun _ _ => rfl
    exact filterMap_zipWith first level

theorem total_append (side : Side) (denom : String) (front back : List Movement) :
    side.total denom (front ++ back) = side.total denom front + side.total denom back := by
  simp [Side.total]

theorem toRat_amount {c : Coin} (whole : c.IsWhole) : c.amount.toRat = c.units := by
  rw [Decimal.IsWhole.eq_ofInt whole, Decimal.toRat_ofInt]
  rfl

theorem sum_toRat {coins : List Coin} (whole : ∀ c ∈ coins, c.IsWhole) :
    (coins.map fun c => c.amount.toRat).sum = ((coins.map Coin.units).sum : ℤ) := by
  induction coins with
  | nil => rfl
  | cons c rest ih =>
    obtain ⟨own, others⟩ := List.forall_mem_cons.mp whole
    rw [List.map_cons, List.sum_cons, ih others, toRat_amount own, List.map_cons, List.sum_cons,
      Int.cast_add]

theorem total_legs {l : Liquidity} (whole : l.shares.IsWhole) (side : Side) :
    side.total l.shares.denom (l.legs side) = if l.tokens = [] then 0 else l.shares.amount.toRat := by
  have own : ((splitShares l.shares l.tokens.length).filter fun c => c.denom == l.shares.denom) =
      splitShares l.shares l.tokens.length :=
    List.filter_eq_self.mpr fun part member => by simp [denom_of_mem_splitShares member]
  rw [Side.total, coins_legs, own]
  by_cases none : l.tokens = []
  · rw [if_pos none, none]
    rfl
  · have some : 1 ≤ l.tokens.length := List.length_pos_iff.mpr none
    rw [if_neg none, sum_toRat fun _ => isWhole_of_mem_splitShares whole, sum_splitShares whole some,
      toRat_amount whole]

def Liquidity.otherCoins (l : Liquidity) : List Coin :=
  l.tokens ++ l.others.flatMap fun m => m.sent?.toList ++ m.received?.toList

theorem total_others {l : Liquidity} (side : Side)
    (apart : ∀ c ∈ l.otherCoins, c.denom ≠ l.shares.denom) :
    side.total l.shares.denom l.others = 0 := by
  have none : ((l.others.filterMap side.coin?).filter fun c => c.denom == l.shares.denom) = [] := by
    rw [List.filter_eq_nil_iff]
    intro c member own
    obtain ⟨m, inside, found⟩ := List.mem_filterMap.mp member
    refine apart c ?_ (by simpa using own)
    refine List.mem_append_right _ (List.mem_flatMap.mpr ⟨m, inside, ?_⟩)
    cases side with
    | deposit => exact List.mem_append_right _ (Option.mem_toList.mpr found)
    | withdrawal => exact List.mem_append_left _ (Option.mem_toList.mpr found)
  rw [Side.total, none]
  rfl

/-! ### All shares are accounted for -/

/-- Where no other coin has the denomination of the shares, the movements of a message account for
exactly its shares, unless there are shares but no token that they are for. Only a join and an exit
that is read from its transfers can be without tokens. -/
theorem shares_accounted {messageType name : String} {side : Side} {read : LiquidityReader}
    (known : (messageType, name, side, read) ∈ liquidityReaders) {typeUrl : String}
    {message : Json} {entry : LogEntry} {o : Outcome}
    (success : liquidity side read typeUrl message entry = .ok o) :
    ∃ l, read typeUrl message entry = .ok l ∧
      ((∀ c ∈ l.otherCoins, c.denom ≠ l.shares.denom) →
        (side.total l.shares.denom o.movements = l.shares.amount.toRat ↔
          l.tokens ≠ [] ∨ l.shares.amount.toRat = 0)) ∧
      (l.tokens = [] → read = joinPool ∨ read = exitPoolByTransfer) := by
  obtain ⟨l, found, rfl⟩ := map_ok success
  obtain ⟨well, guarded⟩ := liquidityReaders_tell _ known _ _ _ _ found
  refine ⟨l, found, ?_, guarded⟩
  intro apart
  have total : side.total l.shares.denom (l.outcome side).movements =
      if l.tokens = [] then 0 else l.shares.amount.toRat := by
    rw [Liquidity.outcome, total_append, total_legs well.shares, total_others side apart, add_zero]
  rw [total]
  by_cases none : l.tokens = []
  · simp [none, eq_comm]
  · simp [none]

def joining : Json := .obj [("sender", .str "osmo1s"), ("pool_id", .str "1")]

def joiningLog : LogEntry where
  events := [
    ⟨"message", [⟨"action", "join_pool"⟩]⟩,
    ⟨"transfer", [⟨"recipient", "osmo1pool"⟩, ⟨"sender", "osmo1s"⟩, ⟨"amount", "10uatom,20uosmo"⟩,
      ⟨"recipient", "osmo1s"⟩, ⟨"sender", "osmo1pool"⟩, ⟨"amount", "101gamm/pool/1"⟩]⟩,
    ⟨"pool_joined", [⟨"sender", "osmo1s"⟩, ⟨"tokens_in", "10uatom,20uosmo"⟩]⟩]

/-- An odd number of shares, of which neither part is lost. -/
def oddJoin : Outcome :=
  ⟨"osmo1s", [Movement.swap "osmo1s" ⟨10, "uatom"⟩ ⟨50, "gamm/pool/1"⟩,
    Movement.swap "osmo1s" ⟨20, "uosmo"⟩ ⟨51, "gamm/pool/1"⟩]⟩

theorem shares_accounted_of_join :
    liquidity .deposit joinPool joinPoolType joining joiningLog = .ok oddJoin ∧
      Side.deposit.total "gamm/pool/1" oddJoin.movements = 101 := by
  have known : (joinPoolType, "join", Side.deposit, joinPool) ∈ liquidityReaders :=
    List.mem_cons_self
  have success : liquidity .deposit joinPool joinPoolType joining joiningLog = .ok oddJoin := by rfl
  refine ⟨success, ?_⟩
  obtain ⟨l, found, exact, -⟩ := shares_accounted known success
  have read : joinPool joinPoolType joining joiningLog =
      .ok ⟨"osmo1s", ⟨101, "gamm/pool/1"⟩, [⟨10, "uatom"⟩, ⟨20, "uosmo"⟩], []⟩ := by rfl
  rw [read] at found
  cases found
  have total := (exact (by decide)).mpr (.inl (by decide))
  exact total.trans (Decimal.toRat_ofInt 101)

def leaving : Json :=
  .obj [("sender", .str "osmo1s"), ("pool_id", .str "7"), ("share_in_amount", .str "1000")]

/-- The log of an exit that pays out nothing: shares leave the account and no token arrives. -/
def leavingLog : LogEntry where
  events := [
    ⟨"message", [⟨"action", "exit_pool"⟩]⟩,
    ⟨"transfer", [⟨"recipient", "osmo1s"⟩, ⟨"sender", "osmo1pool"⟩, ⟨"amount", ""⟩,
      ⟨"recipient", "osmo1gamm"⟩, ⟨"sender", "osmo1s"⟩, ⟨"amount", "1000gamm/pool/7"⟩]⟩,
    ⟨"pool_exited", [⟨"sender", "osmo1s"⟩, ⟨"pool_id", "7"⟩, ⟨"tokens_out", ""⟩]⟩]

/-- The reader of the exit event refuses the message, the reader of the transfers accepts it, and the
thousand shares are in no movement. -/
theorem shares_lost :
    exitPoolByEvent exitPoolType leaving leavingLog = missing exitPoolType "tokens_out" ∧
      exitPoolByTransfer exitPoolType leaving leavingLog =
        .ok ⟨"osmo1s", ⟨1000, "gamm/pool/7"⟩, [], []⟩ ∧
      liquidity .withdrawal exitPoolByTransfer exitPoolType leaving leavingLog =
        .ok ⟨"osmo1s", []⟩ ∧
      (Registry.standard {}).decode exitPoolType leaving (some leavingLog) =
        .ok ⟨exitPoolType, "MsgExitPool (transfer): osmo1s sent  and received ", []⟩ ∧
      Side.withdrawal.total "gamm/pool/7" [] ≠ 1000 :=
  ⟨by rfl, by rfl, by rfl, by rfl, by decide⟩

end TaxLedger.Pool
