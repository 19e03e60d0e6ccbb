import TaxLedger.Pipeline.Basic

/-!
Everything one move can do to the pipeline, and runs of moves. `step_iff` tells the moves apart once:
an invariant is proved by cases on `Step` and never unfolds `step` again.
-/

namespace TaxLedger.Pipeline

/-- What a move makes of the pipeline, one case for every way it can go. -/
inductive Step (c : Course) (s : State) : Move → State → Prop where
  | sent {stop : Bool} (kept : s.signal.isHeld = true) :
      Step c s (.send stop) { s with signal := s.signal.send stop }
  | lost : Step c s .lose { s with signal := s.signal.lose }
  | expired (limited : s.closing = .limited) : Step c s .expire { s with closing := .expired }
  | planned {plan : Plan} (planning : s.phase = .planning plan) :
      Step c s .plan { s with phase := plan.next c s.signal.stop }
  | learned {next tip : Int} {tries : Nat} (polling : s.phase = .polling next tries) :
      Step c s (.learn (.ok tip)) { s with phase := .planning (.stretch next (c.target tip) tip) }
  | repolled {next : Int} {tries : Nat} {failure : Failure} (polling : s.phase = .polling next tries)
      (allowed : c.budget.allows tries = true) :
      Step c s (.learn (.error failure)) { s with phase := .polling next (tries + 1) }
  | refused {next : Int} {tries : Nat} {failure : Failure} (polling : s.phase = .polling next tries)
      (exhausted : c.budget.allows tries = false) :
      Step c s (.learn (.error failure))
        { s with phase := .ended (.error (failure.within "Failed to get node status")) }
  | passed {height : Int} {rest : Plan} (checking : s.phase = .checking height rest) :
      Step c s (.look (.ok true)) { s with phase := .planning rest }
  | cleared {height : Int} {rest : Plan} (checking : s.phase = .checking height rest) :
      Step c s (.look (.ok false)) { s with phase := .offering height rest }
  | unknown {height : Int} {rest : Plan} {failure : Failure}
      (checking : s.phase = .checking height rest) :
      Step c s (.look (.error failure)) { s with phase := .ended (.error failure) }
  | handed {height : Int} {rest : Plan} (offering : s.phase = .offering height rest)
      (room : s.queue.hasRoom = true) :
      Step c s .hand { s with
        queue := s.queue.push height
        handed := s.handed ++ [height]
        phase := if c.isThrottled then .settling rest else .planning rest }
  | withdrawn {height : Int} {rest : Plan} (offering : s.phase = .offering height rest)
      (hopeless : (s.signal.stop || !s.queue.isServed) = true) :
      Step c s .withdraw { s with phase := .ended (.ok ()) }
  | paused {rest : Plan} (settling : s.phase = .settling rest) :
      Step c s .pause
        { s with phase := if s.signal.stop then .ended (.ok ()) else .pausing rest }
  | woken {rest : Plan} {waking : Waking} (pausing : s.phase = .pausing rest)
      (can : s.signal.canWake waking = true) :
      Step c s (.wake waking)
        { s with phase := if s.signal.endsAll waking then .ended (.ok ()) else .planning rest }
  | closed {result : Except Failure Unit} (ended : s.phase = .ended result)
      (once : s.closing = .notYet) :
      Step c s .close { s with
        queue := s.queue.close
        closing := if s.signal.stop then .limited else .patient }
  | locked {i : Nat} (idle : s.workers[i]? = some .idle) (free : s.isLocked = false) :
      Step c s (.lock i) (s.withWorker i .waiting)
  | halted {i : Nat} (waiting : s.workers[i]? = some .waiting) (stopped : s.signal.stop = true) :
      Step c s (.check i) (s.withWorker i .gone)
  | checked {i : Nat} (waiting : s.workers[i]? = some .waiting) (running : s.signal.stop = false) :
      Step c s (.check i) (s.withWorker i .ready)
  | taken {i : Nat} {height : Int} {queue : HeightQueue} (ready : s.workers[i]? = some .ready)
      (front : s.queue.pop? = some (height, queue)) :
      Step c s (.take i) ({ s with queue }.withWorker i (.indexing height 0))
  | left {i : Nat} (ready : s.workers[i]? = some .ready) (exhausted : s.queue.isExhausted = true) :
      Step c s (.take i) (s.withWorker i .gone)
  | waited {i : Nat} (ready : s.workers[i]? = some .ready) (empty : s.queue.items = [])
      (fed : s.queue.isFed = true) : Step c s (.take i) (s.withWorker i .waiting)
  | indexed {i tries : Nat} {height : Int} (busy : s.workers[i]? = some (.indexing height tries)) :
      Step c s (.attempt i (.ok ())) (s.finish i height .indexed .idle)
  | retried {i tries : Nat} {height : Int} {failure : Failure}
      (busy : s.workers[i]? = some (.indexing height tries)) (allowed : c.budget.allows tries = true) :
      Step c s (.attempt i (.error failure)) (s.withWorker i (.indexing height (tries + 1)))
  | spent {i tries : Nat} {height : Int} {failure : Failure}
      (busy : s.workers[i]? = some (.indexing height tries))
      (exhausted : c.budget.allows tries = false) :
      Step c s (.attempt i (.error failure)) (s.withWorker i (.recording height failure))
  | recorded {i : Nat} {height : Int} {failure : Failure}
      (failing : s.workers[i]? = some (.recording height failure)) :
      Step c s (.record i) (s.finish i height .failed .idle)
  | cutIndexing {i tries : Nat} {height : Int} (late : s.closing = .expired)
      (busy : s.workers[i]? = some (.indexing height tries)) :
      Step c s (.abort i) (s.finish i height .aborted .gone)
  | cutRecording {i : Nat} {height : Int} {failure : Failure} (late : s.closing = .expired)
      (failing : s.workers[i]? = some (.recording height failure)) :
      Step c s (.abort i) (s.finish i height .aborted .gone)
  | cutIdle {i : Nat} (late : s.closing = .expired) (idle : s.workers[i]? = some .idle) :
      Step c s (.abort i) (s.withWorker i .gone)
  | cutWaiting {i : Nat} (late : s.closing = .expired) (waiting : s.workers[i]? = some .waiting) :
      Step c s (.abort i) (s.withWorker i .gone)

theorem step_of_dispatch {c : Course} {s t : State} {move : Move} (h : dispatch c s move = some t) :
    Step c s move t := by
  unfold dispatch at h
  split at h
  · split at h
    · rename_i planning
      cases h
      exact .planned planning
    · cases h
  · split at h
    · rename_i polling
      cases h
      exact .learned polling
    · rename_i tries _ polling
      cases h
      cases allowed : c.budget.allows tries with
      | true => exact .repolled polling allowed
      | false => exact .refused polling allowed
    · cases h
  · split at h
    · rename_i checking
      cases h
      exact .passed checking
    · rename_i checking
      cases h
      exact .cleared checking
    · rename_i checking
      cases h
      exact .unknown checking
    · cases h
  · split at h
    · rename_i offering
      split at h
      · rename_i room
        cases h
        exact .handed offering room
      · cases h
    · cases h
  · split at h
    · rename_i offering
      split at h
      · rename_i hopeless
        cases h
        exact .withdrawn offering hopeless
      · cases h
    · cases h
  · split at h
    · rename_i settling
      cases h
      exact .paused settling
    · cases h
  · split at h
    · rename_i pausing
      split at h
      · rename_i can
        cases h
        exact .woken pausing can
      · cases h
    · cases h
  · split at h
    · rename_i ended once
      cases h
      exact .closed ended once
    · cases h
  · cases h

theorem step_of_work {c : Course} {s t : State} {move : Move} (h : work c s move = some t) :
    Step c s move t := by
  unfold work at h
  split at h
  · split at h
    · rename_i idle
      split at h
      · cases h
      · rename_i free
        cases h
        exact .locked idle (Bool.eq_false_iff.mpr free)
    · cases h
  · split at h
    · rename_i waiting
      cases h
      cases stop : s.signal.stop with
      | true => exact .halted waiting stop
      | false => exact .checked waiting stop
    · cases h
  · split at h
    · rename_i ready front
      cases h
      exact .taken ready front
    · rename_i ready nothing
      cases h
      cases exhausted : s.queue.isExhausted with
      | true => exact .left ready exhausted
      | false =>
        have empty := HeightQueue.pop?_eq_none_iff.mp nothing
        exact .waited ready empty (by simpa [HeightQueue.isExhausted, empty] using exhausted)
    · cases h
  · split at h
    · rename_i busy
      cases h
      exact .indexed busy
    · rename_i tries _ busy
      cases h
      cases allowed : c.budget.allows tries with
      | true => exact .retried busy allowed
      | false => exact .spent busy allowed
    · cases h
  · split at h
    · rename_i failing
      cases h
      exact .recorded failing
    · cases h
  · split at h
    · rename_i late busy
      cases h
      exact .cutIndexing late busy
    · rename_i late failing
      cases h
      exact .cutRecording late failing
    · rename_i late idle
      cases h
      exact .cutIdle late idle
    · rename_i late waiting
      cases h
      exact .cutWaiting late waiting
    · cases h
  · cases h

/-- `step` makes exactly the moves that `Step` tells of. -/
theorem step_iff {c : Course} {s t : State} {move : Move} :
    step c s move = some t ↔ Step c s move t := by
  constructor
  · intro h
    unfold step at h
    split at h
    · split at h
      · rename_i kept
        cases h
        exact .sent kept
      · cases h
    · cases h
      exact .lost
    · split at h
      · rename_i limited
        cases h
        exact .expired limited
      · cases h
    all_goals first | exact step_of_dispatch h | exact step_of_work h
  · intro h
    cases h with
    | left ready exhausted =>
      have empty := (HeightQueue.isExhausted_iff.mp exhausted).1
      simp [step, work, ready, HeightQueue.pop?_eq_none_iff.mpr empty, exhausted]
    | waited ready empty fed =>
      simp [step, work, ready, HeightQueue.pop?_eq_none_iff.mpr empty, HeightQueue.isExhausted, fed]
    | _ => simp_all [step, dispatch, work]

end TaxLedger.Pipeline
