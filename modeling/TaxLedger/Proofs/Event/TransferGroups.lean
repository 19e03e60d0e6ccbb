import TaxLedger.Proofs.Event.Merged

/-!
Transfer events as they are written. A group is a recipient and the attributes behind it up to the next
recipient, and reading gives one transfer for each group (`transfers_read_back`). What is refused is an
event of another kind, and a sender or an amount that no recipient comes before (`groups_eq_error_iff`).
-/

namespace TaxLedger.Transfer

/-- The attributes of one transfer: its recipient and what is told behind it. -/
structure Group where
  recipient : String
  attributes : List Attribute := []
  inside : ∀ a ∈ attributes, a.key ≠ "recipient" := by decide

def Group.written (g : Group) : List Attribute := ⟨"recipient", g.recipient⟩ :: g.attributes

/-- The transfer that a group tells: the last sender and the last amount count. -/
def Group.transfer (g : Group) : Transfer where
  recipient := g.recipient
  sender := Event.last ⟨"transfer", g.attributes⟩ "sender"
  amount := Event.last ⟨"transfer", g.attributes⟩ "amount"

/-- An attribute that belongs to no group wherever it stands. -/
def Loose (a : Attribute) : Prop := a.key ≠ "recipient" ∧ a.key ≠ "sender" ∧ a.key ≠ "amount"

/-- A sender or an amount before the first recipient. -/
def Early (attributes : List Attribute) : Prop :=
  ∃ front a back, attributes = front ++ a :: back ∧ (a.key = "sender" ∨ a.key = "amount") ∧
    ∀ b ∈ front, b.key ≠ "recipient"

/-! ### One group -/

def noted (t : Transfer) (a : Attribute) : Transfer :=
  if a.key = "sender" then { t with sender := a.value }
  else if a.key = "amount" then { t with amount := a.value }
  else t

theorem groups_noted (t : Transfer) {a : Attribute} (inside : a.key ≠ "recipient")
    (rest : List Attribute) : groups (some t) (a :: rest) = groups (some (noted t a)) rest := by
  rw [groups, if_neg inside, noted]
  by_cases sender : a.key = "sender"
  · rw [if_pos sender, if_pos sender]
  · by_cases amount : a.key = "amount"
    · rw [if_neg sender, if_neg sender, if_pos amount, if_pos amount]
    · rw [if_neg sender, if_neg sender, if_neg amount, if_neg amount]

theorem groups_inside (t : Transfer) {attributes : List Attribute}
    (inside : ∀ a ∈ attributes, a.key ≠ "recipient") (rest : List Attribute) :
    groups (some t) (attributes ++ rest) = groups (some (attributes.foldl noted t)) rest := by
  induction attributes generalizing t with
  | nil => rfl
  | cons a more ih =>
    rw [List.cons_append, groups_noted t (inside a List.mem_cons_self), List.foldl_cons]
    exact ih _ fun b member => inside b (List.mem_cons_of_mem _ member)

theorem last_concat (kind : String) (attributes : List Attribute) (a : Attribute) (key : String) :
    Event.last ⟨kind, attributes ++ [a]⟩ key =
      if a.key = key then a.value else Event.last ⟨kind, attributes⟩ key := by
  by_cases own : a.key = key
  · simp [Event.last, Event.values, own]
  · simp [Event.last, Event.values, own]

theorem foldl_noted (recipient : String) (attributes : List Attribute) :
    attributes.foldl noted { recipient } =
      { recipient,
        sender := Event.last ⟨"transfer", attributes⟩ "sender",
        amount := Event.last ⟨"transfer", attributes⟩ "amount" } := by
  induction attributes using List.reverseRecOn with
  | nil => rfl
  | append_singleton before a ih =>
    rw [List.foldl_append, ih, last_concat, last_concat, List.foldl_cons, List.foldl_nil, noted]
    by_cases sender : a.key = "sender"
    · simp [sender]
    · by_cases amount : a.key = "amount"
      · simp [amount]
      · simp [sender, amount]

/-! ### All groups -/

theorem groups_recipient (current : Option Transfer) (recipient : String) (rest : List Attribute) :
    groups current (⟨"recipient", recipient⟩ :: rest) =
      (groups (some { recipient }) rest).map (current.toList ++ ·) := by
  rw [groups.eq_def]
  exact if_pos rfl

theorem groups_written (gs : List Group) (current : Option Transfer) :
    groups current (gs.flatMap Group.written) = .ok (current.toList ++ gs.map Group.transfer) := by
  induction gs generalizing current with
  | nil => simp [groups]
  | cons g more ih =>
    rw [List.flatMap_cons, Group.written, List.cons_append, groups_recipient,
      groups_inside _ g.inside, foldl_noted, ih]
    rfl

theorem groups_loose {front : List Attribute} (loose : ∀ a ∈ front, Loose a) (rest : List Attribute) :
    groups none (front ++ rest) = groups none rest := by
  induction front with
  | nil => rfl
  | cons a more ih =>
    obtain ⟨recipient, sender, amount⟩ := loose a List.mem_cons_self
    rw [List.cons_append, groups, if_neg recipient, if_neg sender, if_neg amount]
    exact ih fun b member => loose b (List.mem_cons_of_mem _ member)

/-! ### Refusals -/

/-- Nothing is refused once a group is open. -/
theorem groups_some_ok (t : Transfer) (attributes : List Attribute) :
    ∃ transfers, groups (some t) attributes = .ok transfers := by
  induction attributes generalizing t with
  | nil => exact ⟨[t], rfl⟩
  | cons a rest ih =>
    by_cases opens : a.key = "recipient"
    · obtain ⟨transfers, read⟩ := ih { recipient := a.value }
      refine ⟨t :: transfers, ?_⟩
      rw [groups, if_pos opens, read]
      rfl
    · rw [groups_noted t opens]
      exact ih _

/-- What is refused is the first sender or amount, if nothing but loose attributes stands before it. -/
theorem groups_eq_error_iff {attributes : List Attribute} {problem : DecodeError} :
    groups none attributes = .error problem ↔
      ∃ front a back, attributes = front ++ a :: back ∧ (a.key = "sender" ∨ a.key = "amount") ∧
        (∀ b ∈ front, Loose b) ∧ problem = .logFormat "transfer" (a.key ++ " before recipient") := by
  constructor
  · intro refused
    induction attributes with
    | nil => cases refused
    | cons a rest ih =>
      by_cases opens : a.key = "recipient"
      · obtain ⟨transfers, read⟩ := groups_some_ok { recipient := a.value } rest
        rw [groups, if_pos opens, read] at refused
        cases refused
      · by_cases sender : a.key = "sender"
        · rw [groups, if_neg opens, if_pos sender] at refused
          cases refused
          exact ⟨[], a, rest, rfl, .inl sender, List.forall_mem_nil _, by rw [sender]; rfl⟩
        · by_cases amount : a.key = "amount"
          · rw [groups, if_neg opens, if_neg sender, if_pos amount] at refused
            cases refused
            exact ⟨[], a, rest, rfl, .inr amount, List.forall_mem_nil _, by rw [amount]; rfl⟩
          · rw [groups, if_neg opens, if_neg sender, if_neg amount] at refused
            obtain ⟨front, b, back, rfl, early, loose, same⟩ := ih refused
            exact ⟨a :: front, b, back, rfl, early,
              List.forall_mem_cons.mpr ⟨⟨opens, sender, amount⟩, loose⟩, same⟩
  · rintro ⟨front, a, back, rfl, early, loose, rfl⟩
    rw [groups_loose loose, groups]
    rcases early with sender | amount
    · simp [sender]
    · simp [amount]

theorem early_iff {attributes : List Attribute} :
    Early attributes ↔ ∃ problem, groups none attributes = .error problem := by
  simp only [groups_eq_error_iff]
  constructor
  · rintro ⟨front, a, back, rfl, early, before⟩
    -- The first one that is not loose is refused, be it the one at hand or one before it.
    induction front with
    | nil => exact ⟨_, [], a, back, rfl, early, List.forall_mem_nil _, rfl⟩
    | cons b more ih =>
      obtain ⟨own, later⟩ := List.forall_mem_cons.mp before
      by_cases first : b.key = "sender" ∨ b.key = "amount"
      · exact ⟨_, [], b, more ++ a :: back, rfl, first, List.forall_mem_nil _, rfl⟩
      · obtain ⟨sender, amount⟩ := not_or.mp first
        obtain ⟨problem, front, c, rest, split, early, loose, same⟩ := ih later
        exact ⟨problem, b :: front, c, rest, congrArg (b :: ·) split, early,
          List.forall_mem_cons.mpr ⟨⟨own, sender, amount⟩, loose⟩, same⟩
  · rintro ⟨problem, front, a, back, split, early, loose, _⟩
    exact ⟨front, a, back, split, early, fun b member => (loose b member).1⟩

/-- Transfers are read back exactly: from groups as they are written, behind attributes that belong to
none, come their transfers in order. An event is refused exactly if it is of another kind or has a sender
or an amount before its first recipient. -/
theorem transfers_read_back {front : List Attribute} (loose : ∀ a ∈ front, Loose a) (gs : List Group) :
    ofEvent ⟨"transfer", front ++ gs.flatMap Group.written⟩ = .ok (gs.map Group.transfer) ∧
      ∀ e : Event, (∃ problem, ofEvent e = .error problem) ↔
        e.kind ≠ "transfer" ∨ Early e.attributes := by
  refine ⟨?_, fun e => ?_⟩
  · rw [ofEvent, if_pos rfl, groups_loose loose, groups_written]
    rfl
  · rw [early_iff, ofEvent]
    by_cases kind : e.kind = "transfer"
    · simp [kind]
    · simp [kind]

/-- A group without a sender behind one that tells its amount twice. -/
theorem transfers_read_back_of_two :
    ofEvent ⟨"transfer", [⟨"module", "bank"⟩, ⟨"recipient", "osmo1a"⟩, ⟨"amount", "1uosmo"⟩,
      ⟨"sender", "osmo1b"⟩, ⟨"amount", "2uosmo"⟩, ⟨"recipient", "osmo1c"⟩, ⟨"amount", "3uion"⟩]⟩ =
      .ok [⟨"osmo1a", "osmo1b", "2uosmo"⟩, ⟨"osmo1c", "", "3uion"⟩] ∧
    ∃ problem, ofEvent ⟨"transfer", [⟨"amount", "1uosmo"⟩, ⟨"recipient", "osmo1a"⟩]⟩ =
      .error problem := by
  have loose : ∀ a ∈ [(⟨"module", "bank"⟩ : Attribute)], Loose a := by
    intro a member
    rw [List.mem_singleton.mp member]
    exact ⟨by decide, by decide, by decide⟩
  obtain ⟨read, refused⟩ := transfers_read_back loose
    [⟨"osmo1a", [⟨"amount", "1uosmo"⟩, ⟨"sender", "osmo1b"⟩, ⟨"amount", "2uosmo"⟩], by decide⟩,
      ⟨"osmo1c", [⟨"amount", "3uion"⟩], by decide⟩]
  have early : Early [⟨"amount", "1uosmo"⟩, ⟨"recipient", "osmo1a"⟩] :=
    ⟨[], ⟨"amount", "1uosmo"⟩, _, rfl, .inr rfl, List.forall_mem_nil _⟩
  exact ⟨read, (refused _).mpr (.inr early)⟩

end TaxLedger.Transfer
