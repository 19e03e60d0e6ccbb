import TaxLedger.Proofs.Pipeline.Plan

/-!
The heights of a chain. As long as nothing is passed over, the heights handed to the queue follow one
another without a gap from the first on, whatever tips the node tells, and the dispatcher that ends by
itself has come to the end or has caught up (`chain_handed_in_order`).
-/

namespace TaxLedger.Pipeline

variable {c : Course} {s t : State} {move : Move} {moves : List Move} {plan rest : Plan}
  {phase : Phase} {start next : Int} {tips dealt : List Int}

/-! ### Stretches of heights -/

theorem range_self (start : Int) : Int.range start start = [] := by simp [Int.range]

theorem range_succ (ordered : start ≤ next) :
    Int.range start (next + 1) = Int.range start next ++ [next] := by
  obtain ⟨n, rfl⟩ := Int.le.dest ordered
  have longer : (start + n + 1 - start).toNat = n + 1 := by omega
  simp [Int.range, longer, List.range_succ]

theorem range_eq_nil {stop : Int} (crossed : stop ≤ start) : Int.range start stop = [] := by
  have empty : (stop - start).toNat = 0 := by omega
  simp [Int.range, empty]

/-! ### Plans of a chain -/

/-- The plan goes on with the height `next`; a stretch is the one up to the last tip. -/
def Plan.IsAt (c : Course) (tips : List Int) (next : Int) : Plan → Prop
  | .listed _ => False
  | .chain first => first = next
  | .stretch first target tip => first = next ∧ tips.getLast? = some tip ∧ target = c.target tip

/-- The heights from `start` up to `next` are done with, and none of them lies behind the end or ahead
of all tips. -/
structure Stretched (c : Course) (start : Int) (tips dealt : List Int) (next : Int) : Prop where
  ordered : start ≤ next
  gapless : dealt = Int.range start next
  told : ∀ height ∈ dealt, ∃ tip ∈ tips, height ≤ tip
  inside : 0 ≤ c.lastHeight → ∀ height ∈ dealt, height ≤ c.lastHeight

theorem target_le_tip (c : Course) (tip : Int) : c.target tip ≤ tip := by
  rw [Course.target]
  split
  · exact Int.le_refl _
  · exact Int.min_le_left _ _

theorem target_le_last (bounded : 0 ≤ c.lastHeight) (tip : Int) : c.target tip ≤ c.lastHeight := by
  rw [Course.target, if_neg (by omega)]
  exact Int.min_le_right _ _

theorem Stretched.snoc {tip : Int} (stretched : Stretched c start tips dealt next)
    (last : tips.getLast? = some tip) (within : next ≤ c.target tip) :
    Stretched c start tips (dealt ++ [next]) (next + 1) := by
  obtain ⟨ordered, gapless, told, inside⟩ := stretched
  refine ⟨by omega, ?_, ?_, ?_⟩
  · rw [range_succ ordered, gapless]
  · intro height member
    rcases List.mem_append.mp member with old | new
    · exact told height old
    · obtain rfl := List.mem_singleton.mp new
      exact ⟨tip, List.mem_of_getLast? last, within.trans (target_le_tip c tip)⟩
  · intro bounded height member
    rcases List.mem_append.mp member with old | new
    · exact inside bounded height old
    · obtain rfl := List.mem_singleton.mp new
      exact within.trans (target_le_last bounded tip)

/-- A stretch up to the greatest height that there is: behind it the heights begin anew. -/
def Plan.IsEndless (c : Course) (tips : List Int) : Plan → Prop
  | .stretch first target tip =>
    first ≤ int64Max ∧ int64Max ≤ target ∧ target = c.target tip ∧ tip ∈ tips
  | _ => False

/-- No tip takes the dispatcher to the greatest height that there is. -/
def Course.Bounds (c : Course) (tips : List Int) : Prop := ∀ tip ∈ tips, c.target tip < int64Max

theorem Plan.IsEndless.not_bounds (endless : plan.IsEndless c tips) : ¬c.Bounds tips := by
  intro bounds
  cases plan with
  | stretch first target tip =>
    obtain ⟨_, reach, rfl, member⟩ := endless
    exact absurd (bounds tip member) (by omega)
  | listed _ | chain _ => exact endless

theorem Plan.IsEndless.turn (endless : plan.IsEndless c tips) (turn : Turn c plan phase) :
    ∃ height rest, phase = .checking height rest ∧ rest.IsEndless c tips := by
  cases turn with
  | emptied | listed | asking => cases endless
  | @ahead first target tip within =>
    obtain ⟨low, reach⟩ := endless
    refine ⟨first, _, rfl, ?_, reach⟩
    rw [heightAfter]
    split
    · decide
    · omega
  | through beyond _ | behind beyond =>
    obtain ⟨low, reach, _⟩ := endless
    omega

/-- As long as the dispatcher does not come to the greatest height, its plan stretches without a gap. -/
theorem reached_chain (reached : Reached c (.chain start) tips dealt plan) :
    (∃ next, Stretched c start tips dealt next ∧ plan.IsAt c tips next) ∨ plan.IsEndless c tips := by
  induction reached with
  | start => exact .inl ⟨start, ⟨Int.le_refl _, (range_self start).symm, nofun, nofun⟩, rfl⟩
  | @learned tips dealt first tip _ ih =>
    obtain ⟨next, stretched, rfl⟩ := ih.resolve_right id
    refine .inl ⟨_, { stretched with told := fun height member => ?_ }, rfl, by simp, rfl⟩
    obtain ⟨earlier, present, low⟩ := stretched.told height member
    exact ⟨earlier, List.mem_append_left _ present, low⟩
  | @dealt tips dealt plan rest height _ turn ih =>
    rcases ih with ⟨next, stretched, place⟩ | endless
    · cases turn with
      | listed => cases place
      | ahead within =>
        obtain ⟨rfl, last, rfl⟩ := place
        have later := stretched.snoc last within
        by_cases greatest : height = int64Max
        · refine .inr ⟨?_, greatest ▸ within, rfl, List.mem_of_getLast? last⟩
          rw [heightAfter, if_pos greatest]
          decide
        · rw [heightAfter, if_neg greatest]
          exact .inl ⟨_, later, rfl, last, rfl⟩
    · obtain ⟨_, rest, same, endless⟩ := endless.turn turn
      cases same
      exact .inr endless
  | settled _ turn ih =>
    rcases ih with ⟨next, stretched, place⟩ | endless
    · cases turn with
      | behind beyond => exact .inl ⟨next, stretched, place.1⟩
    · obtain ⟨_, _, same, _⟩ := endless.turn turn
      cases same

/-- The chain is done with up to its end, or as far as the node has told last. -/
def ChainDone (c : Course) (start : Int) (tips dealt : List Int) : Prop :=
  (0 ≤ c.lastHeight ∧ dealt = Int.range start (c.lastHeight + 1)) ∨
    (c.exitWhenCaughtUp = true ∧ ∃ tip, tips.getLast? = some tip ∧
      ∀ height, start ≤ height → height ≤ c.target tip → height ∈ dealt)

theorem chainDone_of_turn (reached : Reached c (.chain start) tips dealt plan)
    (turn : Turn c plan (.ended (.ok ()))) : ChainDone c start tips dealt := by
  obtain ⟨next, ⟨ordered, gapless, _, inside⟩, place⟩ := (reached_chain reached).resolve_right
    fun endless => by
      obtain ⟨_, _, same, _⟩ := endless.turn turn
      cases same
  cases turn with
  | emptied => cases place
  | @through first target tip beyond done =>
    obtain ⟨rfl, last, rfl⟩ := place
    rcases Bool.or_eq_true_iff.mp done with behind | caughtUp
    · rw [Course.isOver, Bool.and_eq_true, decide_eq_true_eq, decide_eq_true_eq] at behind
      obtain ⟨bounded, behind⟩ := behind
      refine .inl ⟨bounded, ?_⟩
      -- The height before `first` is done with and not behind the end, if there is one.
      by_cases none : first = start
      · rw [gapless, none, range_self, range_eq_nil (by omega)]
      · have member : first - 1 ∈ dealt := by
          rw [gapless, Int.mem_range_iff]
          omega
        have reach := inside bounded _ member
        obtain rfl : first = c.lastHeight + 1 := by omega
        exact gapless
    · refine .inr ⟨caughtUp, tip, last, fun height low high => ?_⟩
      rw [gapless, Int.mem_range_iff]
      omega

/-! ### Where the dispatcher is -/

def Plan.first? : Plan → Option Int
  | .listed heights => heights.head?
  | .chain next | .stretch next _ _ => some next

def Phase.next? : Phase → Option Int
  | .planning rest | .settling rest | .pausing rest => rest.first?
  | .polling height _ | .checking height _ | .offering height _ => some height
  | .ended _ => none

theorem first?_of_isAt (place : plan.IsAt c tips next) : plan.first? = some next := by
  cases plan with
  | listed heights => cases place
  | chain first => exact congrArg some place
  | stretch first target tip => exact congrArg some place.1

theorem stretched_of_follows {interrupted : Prop} (bounds : c.Bounds tips)
    (follows : phase.Follows c (.chain start) interrupted tips dealt) :
    ∃ next, Stretched c start tips dealt next ∧ ∀ height, phase.next? = some height → height = next := by
  have gapless {plan : Plan} (reached : Reached c (.chain start) tips dealt plan) :
      ∃ next, Stretched c start tips dealt next ∧ plan.IsAt c tips next :=
    (reached_chain reached).resolve_right fun endless => endless.not_bounds bounds
  cases phase with
  | planning rest | settling rest | pausing rest =>
    obtain ⟨next, stretched, place⟩ := gapless follows
    refine ⟨next, stretched, fun height at_ => ?_⟩
    exact (Option.some.inj ((first?_of_isAt place).symm.trans at_)).symm
  | polling first tries =>
    obtain ⟨next, stretched, rfl⟩ := gapless follows
    exact ⟨_, stretched, fun height at_ => (Option.some.inj at_).symm⟩
  | checking first rest | offering first rest =>
    obtain ⟨plan, reached, turn⟩ := follows
    obtain ⟨next, stretched, place⟩ := gapless reached
    refine ⟨next, stretched, fun height at_ => ?_⟩
    cases turn with
    | listed => cases place
    | ahead within =>
      cases at_
      exact place.1
  | ended result =>
    obtain ⟨plan, reached, _⟩ := follows
    obtain ⟨next, stretched, _⟩ := gapless reached
    exact ⟨next, stretched, nofun⟩

end TaxLedger.Pipeline
