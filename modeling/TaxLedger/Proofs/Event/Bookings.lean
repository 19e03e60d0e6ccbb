import TaxLedger.Proofs.Event.Merged

/-!
Coins of a party. An event books an amount for the party right before it, and for no other one: the coins
of a party are those of its own amounts in order, and what is told of others has no part in them
(`coins_of_own_bookings`).
-/

namespace TaxLedger

/-- What is booked for a party: coins that it receives, or coins that it spends. -/
inductive Booking where
  | received
  | spent
  deriving DecidableEq, Repr

namespace Booking

def partyKey : Booking → String
  | .received => "receiver"
  | .spent => "spender"

def coins : Booking → String → List Event → Except DecodeError (List Coin)
  | .received => coinsReceived
  | .spent => coinsSpent

/-- The parties that attributes name, each with the amount right behind it. -/
def entries (b : Booking) (attributes : List Attribute) : List (String × String) :=
  (attributes.zip attributes.tail).filterMap fun (party, next) =>
    if party.key = b.partyKey ∧ next.key = "amount" then some (party.value, next.value) else none

def booked (b : Booking) (events : List Event) : List (String × String) :=
  events.flatMap fun e => b.entries e.attributes

def amountsOf (b : Booking) (party : String) (events : List Event) : List String :=
  ((b.booked events).filter fun entry => entry.1 == party).map Prod.snd

/-- Attributes told anew for a party: others may have got other names, but not its own, and other
amounts. -/
inductive Retold (b : Booking) (party : String) : List Attribute → List Attribute → Prop
  | done : Retold b party [] []
  | same {as bs : List Attribute} (a : Attribute) (rest : Retold b party as bs) :
      Retold b party (a :: as) (a :: bs)
  | renamed {as bs : List Attribute} {other new : String} (apart : other ≠ party)
      (apart' : new ≠ party) (rest : Retold b party as bs) :
      Retold b party (⟨b.partyKey, other⟩ :: as) (⟨b.partyKey, new⟩ :: bs)
  | amount {as bs : List Attribute} {other new : String} (old now : String) (apart : other ≠ party)
      (apart' : new ≠ party) (rest : Retold b party as bs) :
      Retold b party (⟨b.partyKey, other⟩ :: ⟨"amount", old⟩ :: as)
        (⟨b.partyKey, new⟩ :: ⟨"amount", now⟩ :: bs)

/-! ### The amounts of a party -/

theorem coins_eq (b : Booking) (party : String) (events : List Event) :
    b.coins party events = coinsFollowing b.partyKey party events := by
  cases b with
  | received => rfl
  | spent => rfl

theorem partyKey_ne_amount (b : Booking) : b.partyKey ≠ "amount" := by
  cases b with
  | received => decide
  | spent => decide

def leadingAmount (attributes : List Attribute) : Option String :=
  attributes.head?.bind fun a => if a.key = "amount" then some a.value else none

theorem entries_cons (b : Booking) (a : Attribute) (rest : List Attribute) :
    b.entries (a :: rest) =
      (if a.key = b.partyKey then (leadingAmount rest).toList.map fun amount => (a.value, amount)
        else []) ++ b.entries rest := by
  cases rest with
  | nil => simp [entries, leadingAmount]
  | cons next rest =>
    by_cases named : a.key = b.partyKey
    · by_cases amount : next.key = "amount"
      · simp [entries, leadingAmount, named, amount]
      · simp [entries, leadingAmount, named, amount]
    · simp [entries, named]

theorem amountsFollowing_cons (key party : String) (a : Attribute) (rest : List Attribute) :
    amountsFollowing key party (a :: rest) =
      (if a.key = key ∧ a.value = party then (leadingAmount rest).toList else []) ++
        amountsFollowing key party rest := by
  rw [amountsFollowing.eq_def]
  by_cases own : a.key = key ∧ a.value = party
  · cases rest with
    | nil => simp [own, leadingAmount]
    | cons next rest =>
      by_cases amount : next.key = "amount"
      · simp [own, leadingAmount, amount]
      · simp [own, leadingAmount, amount]
  · simp [own]

theorem amountsFollowing_eq (b : Booking) (party : String) (attributes : List Attribute) :
    amountsFollowing b.partyKey party attributes =
      ((b.entries attributes).filter fun entry => entry.1 == party).map Prod.snd := by
  induction attributes with
  | nil => rfl
  | cons a rest ih =>
    rw [amountsFollowing_cons, entries_cons, ih, List.filter_append, List.map_append]
    congr 1
    by_cases named : a.key = b.partyKey
    · by_cases own : a.value = party
      · cases leadingAmount rest <;> simp [named, own]
      · cases leadingAmount rest <;> simp [named, own]
    · simp [named]

theorem coins_of_amounts (b : Booking) (party : String) (events : List Event) :
    b.coins party events = ((b.amountsOf party events).mapM Coin.parseList).map List.flatten := by
  have amounts : (events.flatMap fun e => amountsFollowing b.partyKey party e.attributes) =
      b.amountsOf party events := by
    simp only [amountsFollowing_eq, amountsOf, booked, List.filter_flatMap, List.map_flatMap]
  rw [coins_eq, coinsFollowing, amounts]
  rfl

/-! ### What is told of others -/

theorem Retold.leadingAmount_eq {b : Booking} {party : String} {as bs : List Attribute}
    (retold : Retold b party as bs) : leadingAmount bs = leadingAmount as := by
  cases retold with
  | done => rfl
  | same a _ => rfl
  | renamed _ _ _ => simp [leadingAmount, b.partyKey_ne_amount]
  | amount _ _ _ _ _ => simp [leadingAmount, b.partyKey_ne_amount]

theorem Retold.amountsFollowing_eq {b : Booking} {party : String} {as bs : List Attribute}
    (retold : Retold b party as bs) :
    amountsFollowing b.partyKey party bs = amountsFollowing b.partyKey party as := by
  induction retold with
  | done => rfl
  | same a rest ih =>
    rw [amountsFollowing_cons, amountsFollowing_cons, rest.leadingAmount_eq, ih]
  | renamed apart apart' _ ih =>
    rw [amountsFollowing_cons, amountsFollowing_cons, if_neg fun own => apart' own.2,
      if_neg fun own => apart own.2, ih]
  | amount old now apart apart' _ ih =>
    -- The amount names no party itself.
    have key : "amount" ≠ b.partyKey := b.partyKey_ne_amount.symm
    simp only [amountsFollowing_cons, apart, apart', key, ih, and_false, false_and, if_false]

theorem coins_retold {b : Booking} {party : String} {events events' : List Event}
    (retold : List.Forall₂ (fun e e' => b.Retold party e.attributes e'.attributes) events events') :
    b.coins party events' = b.coins party events := by
  have same : (events'.flatMap fun e => amountsFollowing b.partyKey party e.attributes) =
      events.flatMap fun e => amountsFollowing b.partyKey party e.attributes := by
    induction retold with
    | nil => rfl
    | cons own _ ih => rw [List.flatMap_cons, List.flatMap_cons, own.amountsFollowing_eq, ih]
  rw [coins_eq, coins_eq, coinsFollowing, coinsFollowing, same]

/-! ### Every amount for one party -/

theorem amounts_perm {parties : List String} (distinct : parties.Nodup)
    {entries : List (String × String)} (named : ∀ entry ∈ entries, entry.1 ∈ parties) :
    (parties.flatMap fun party => (entries.filter fun entry => entry.1 == party).map Prod.snd).Perm
      (entries.map Prod.snd) := by
  induction parties generalizing entries with
  | nil =>
    have none : entries = [] := List.eq_nil_iff_forall_not_mem.mpr fun entry member =>
      List.not_mem_nil (named entry member)
    rw [none]
    exact .refl _
  | cons party others ih =>
    obtain ⟨fresh, later⟩ := List.nodup_cons.mp distinct
    -- The entries of the other parties are those that are left without the first one.
    have left : ∀ entry ∈ entries.filter fun entry => !(entry.1 == party), entry.1 ∈ others := by
      intro entry member
      obtain ⟨inside, apart⟩ := List.mem_filter.mp member
      have apart : entry.1 ≠ party := by simpa using apart
      exact (List.mem_cons.mp (named entry inside)).resolve_left apart
    have same : ∀ other ∈ others,
        ((entries.filter fun entry => !(entry.1 == party)).filter fun entry => entry.1 == other) =
          entries.filter fun entry => entry.1 == other := by
      intro other member
      rw [List.filter_filter]
      refine List.filter_congr fun entry _ => ?_
      by_cases own : entry.1 = other
      · have apart : other ≠ party := fun equal => fresh (equal ▸ member)
        simp [own, apart]
      · simp [own]
    have rest := ih later left
    rw [List.flatMap_congr fun other member => congrArg (List.map Prod.snd) (same other member)] at rest
    have parts := (List.filter_append_perm (fun entry => entry.1 == party) entries).map Prod.snd
    rw [List.map_append] at parts
    exact (rest.append_left _).trans parts

/-- Coins go to their own party. What a party received or spent are the coins of the amounts that
directly follow its name, in order, and they cannot be read exactly if one of these amounts is malformed.
Each amount is read for one party only: the amounts of all parties are all the amounts that are booked.
And nothing that is told anew of others is seen by the party. -/
theorem coins_of_own_bookings (b : Booking) (party : String) {events events' : List Event}
    (retold : List.Forall₂ (fun e e' => b.Retold party e.attributes e'.attributes) events events') :
    (∀ coins, b.coins party events = .ok coins ↔
      ∃ lists, List.Forall₂ (fun amount list => Coin.parseList amount = .ok list)
        (b.amountsOf party events) lists ∧ coins = lists.flatten) ∧
    ((∃ problem, b.coins party events = .error problem) ↔
      ∃ amount ∈ b.amountsOf party events, ∃ problem, Coin.parseList amount = .error problem) ∧
    (∀ parties : List String, parties.Nodup → (∀ entry ∈ b.booked events, entry.1 ∈ parties) →
      (parties.flatMap fun each => b.amountsOf each events).Perm
        ((b.booked events).map Prod.snd)) ∧
    b.coins party events' = b.coins party events := by
  have read := b.coins_of_amounts party events
  refine ⟨fun coins => ?_, ?_, fun parties distinct named => amounts_perm distinct named,
    coins_retold retold⟩
  · rw [read]
    constructor
    · intro success
      obtain ⟨lists, told, rfl⟩ := map_ok success
      exact ⟨lists, mapM_eq_ok_iff.mp told, rfl⟩
    · rintro ⟨lists, told, rfl⟩
      rw [mapM_eq_ok_iff.mpr told]
      rfl
  · rw [read, ← mapM_fails_iff]
    cases (b.amountsOf party events).mapM Coin.parseList with
    | error problem => simp [Except.map]
    | ok lists => simp [Except.map]

/-- A delegator is paid twice the same, and a stranger's share of the first event is renamed and made
unreadable. -/
theorem coins_of_own_bookings_of_repeated :
    let told : List Event :=
      [⟨"coin_received", [⟨"receiver", "osmo1d"⟩, ⟨"amount", "5uatom,10uosmo"⟩, ⟨"receiver", "osmo1x"⟩,
        ⟨"amount", "1uatom"⟩]⟩,
        ⟨"coin_received", [⟨"receiver", "osmo1d"⟩, ⟨"amount", "5uatom"⟩]⟩]
    let anew : List Event :=
      [⟨"coin_received", [⟨"receiver", "osmo1d"⟩, ⟨"amount", "5uatom,10uosmo"⟩, ⟨"receiver", "osmo1y"⟩,
        ⟨"amount", "many"⟩]⟩,
        ⟨"coin_received", [⟨"receiver", "osmo1d"⟩, ⟨"amount", "5uatom"⟩]⟩]
    List.Forall₂ (fun e e' => Retold .received "osmo1d" e.attributes e'.attributes) told anew ∧
      coinsReceived "osmo1d" anew = .ok [⟨5, "uatom"⟩, ⟨10, "uosmo"⟩, ⟨5, "uatom"⟩] ∧
      ["5uatom,10uosmo", "5uatom", "1uatom"].Perm ["5uatom,10uosmo", "1uatom", "5uatom"] := by
  intro told anew
  have retold : List.Forall₂ (fun e e' => Retold .received "osmo1d" e.attributes e'.attributes)
      told anew :=
    .cons (.same _ (.same _ (.amount _ _ (by decide) (by decide) .done)))
      (.cons (.same _ (.same _ .done)) .nil)
  obtain ⟨read, _, shared, alike⟩ := coins_of_own_bookings .received "osmo1d" retold
  refine ⟨retold, alike.trans ((read _).mpr ?_), ?_⟩
  · have first : Coin.parseList "5uatom,10uosmo" = .ok [⟨5, "uatom"⟩, ⟨10, "uosmo"⟩] := by decide
    have second : Coin.parseList "5uatom" = .ok [⟨5, "uatom"⟩] := by decide
    exact ⟨[[⟨5, "uatom"⟩, ⟨10, "uosmo"⟩], [⟨5, "uatom"⟩]], .cons first (.cons second .nil), rfl⟩
  · exact shared ["osmo1d", "osmo1x"] (by decide) (by decide)

end Booking

end TaxLedger
