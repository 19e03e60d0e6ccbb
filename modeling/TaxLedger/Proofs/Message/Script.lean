import TaxLedger.Proofs.Message.Registry
import TaxLedger.Rehearsal.Script

/-!
Registries that are set up step by step. What a registry makes of a message is told by the steps for its
type alone, in whatever registry they led to: an ignored type gives nothing, an unknown one fails, and of
the decoders of any other type the first success counts or else the error of the last (`run_decides`).
-/

namespace TaxLedger.Message.Registry

inductive Step where
  | register (typeUrl : String) (decoder : Decoder)
  | ignore (typeUrl : String)

def Step.typeUrl : Step → String
  | .register typeUrl _ => typeUrl
  | .ignore typeUrl => typeUrl

@[simp] theorem Step.typeUrl_register (typeUrl : String) (decoder : Decoder) :
    (Step.register typeUrl decoder).typeUrl = typeUrl := rfl

@[simp] theorem Step.typeUrl_ignore (typeUrl : String) : (Step.ignore typeUrl).typeUrl = typeUrl := rfl

def apply (r : Registry) : Step → Registry
  | .register typeUrl decoder => r.register typeUrl decoder
  | .ignore typeUrl => r.ignore typeUrl

def run (r : Registry) (script : List Step) : Registry := script.foldl apply r

def registered (typeUrl : String) : List Step → List Decoder
  | [] => []
  | .register other decoder :: rest =>
    if other = typeUrl then decoder :: registered typeUrl rest else registered typeUrl rest
  | .ignore _ :: rest => registered typeUrl rest

/-- What a message comes to in the registry that a script sets up. -/
inductive Meaning (script : List Step) (typeUrl : String) (message : Json) (log : Option LogEntry) :
    Except DecodeError Decoded → Prop
  | ignored (silenced : .ignore typeUrl ∈ script) :
      Meaning script typeUrl message log (.ok ⟨typeUrl, "", []⟩)
  | unknown (heard : .ignore typeUrl ∉ script) (nobody : ∀ d, .register typeUrl d ∉ script) :
      Meaning script typeUrl message log (.error (.unknownMessageType typeUrl))
  | decoded {reading : Reading} (heard : .ignore typeUrl ∉ script)
      (first : FirstOk (fun d : Decoder => d.read typeUrl message log) (registered typeUrl script)
        (.ok reading)) :
      Meaning script typeUrl message log (.ok ⟨typeUrl, reading.description, reading.movements⟩)
  | refused {problem : DecodeError} (heard : .ignore typeUrl ∉ script)
      (last : FirstOk (fun d : Decoder => d.read typeUrl message log) (registered typeUrl script)
        (.error problem)) :
      Meaning script typeUrl message log (.error problem)

variable {r : Registry} {script more : List Step} {typeUrl : String} {message : Json}
  {log : Option LogEntry} {decoded : Decoded}

/-! ### What a script leaves behind -/

theorem run_append (r : Registry) (script more : List Step) :
    r.run (script ++ more) = (r.run script).run more :=
  List.foldl_append

theorem decodersFor_apply (r : Registry) (step : Step) (typeUrl : String) :
    (r.apply step).decodersFor typeUrl = r.decodersFor typeUrl ++ registered typeUrl [step] := by
  cases step with
  | ignore other => exact (List.append_nil _).symm
  | register other decoder =>
    by_cases same : other = typeUrl <;> simp [apply, register, decodersFor, registered, same]

theorem registered_append (script more : List Step) :
    registered typeUrl (script ++ more) = registered typeUrl script ++ registered typeUrl more := by
  induction script with
  | nil => rfl
  | cons step rest ih =>
    cases step with
    | ignore other => exact ih
    | register other decoder =>
      rw [List.cons_append, registered, registered, ih]
      split <;> rfl

theorem decodersFor_run (r : Registry) (script : List Step) (typeUrl : String) :
    (r.run script).decodersFor typeUrl = r.decodersFor typeUrl ++ registered typeUrl script := by
  induction script generalizing r with
  | nil => exact (List.append_nil _).symm
  | cons step rest ih =>
    have whole : registered typeUrl (step :: rest) =
        registered typeUrl [step] ++ registered typeUrl rest := registered_append [step] rest
    rw [whole, ← List.append_assoc, ← decodersFor_apply]
    exact ih (r.apply step)

theorem isIgnored_apply (r : Registry) (step : Step) (typeUrl : String) :
    (r.apply step).isIgnored typeUrl = true ↔
      r.isIgnored typeUrl = true ∨ .ignore typeUrl = step := by
  cases step with
  | register other decoder => simp [apply, register, isIgnored]
  | ignore other => simp [apply, ignore, isIgnored, or_comm]

theorem isIgnored_run (r : Registry) (script : List Step) (typeUrl : String) :
    (r.run script).isIgnored typeUrl = true ↔
      r.isIgnored typeUrl = true ∨ .ignore typeUrl ∈ script := by
  induction script generalizing r with
  | nil => simp [run]
  | cons step rest ih =>
    rw [List.mem_cons, ← or_assoc, ← isIgnored_apply]
    exact ih (r.apply step)

theorem mem_registered {d : Decoder} :
    d ∈ registered typeUrl script ↔ .register typeUrl d ∈ script := by
  induction script with
  | nil => simp [registered]
  | cons step rest ih =>
    cases step with
    | ignore other => simp [registered, ih]
    | register other decoder =>
      by_cases same : other = typeUrl
      · simp [registered, same, ih]
      · simp [registered, same, ih, Ne.symm same]

theorem registered_eq_nil_iff :
    registered typeUrl script = [] ↔ ∀ d, .register typeUrl d ∉ script := by
  simp only [List.eq_nil_iff_forall_not_mem, mem_registered]

/-- The steps for other types register nothing for a type. -/
theorem registered_filter (script : List Step) (typeUrl : String) :
    registered typeUrl (script.filter fun step => step.typeUrl == typeUrl) =
      registered typeUrl script := by
  induction script with
  | nil => rfl
  | cons step rest ih =>
    cases step with
    | ignore other =>
      by_cases same : other = typeUrl <;> simp [same, registered, ih]
    | register other decoder =>
      by_cases same : other = typeUrl <;> simp [same, registered, ih]

theorem ignore_mem_filter :
    .ignore typeUrl ∈ script.filter (fun step => step.typeUrl == typeUrl) ↔
      .ignore typeUrl ∈ script := by
  simp [Step.typeUrl]

/-- Every registry is what some script sets up. -/
theorem exists_script (r : Registry) : ∃ script, run {} script = r := by
  have registers (entries : List (String × Decoder)) (r : Registry) :
      r.run (entries.map fun entry => .register entry.1 entry.2) =
        { r with decoders := r.decoders ++ entries } := by
    induction entries generalizing r with
    | nil => simp [run]
    | cons entry rest ih =>
      refine (ih (r.register entry.1 entry.2)).trans ?_
      simp [register]
  have ignores (types : List String) (r : Registry) :
      r.run (types.map .ignore) = { r with ignored := types.reverse ++ r.ignored } := by
    induction types generalizing r with
    | nil => rfl
    | cons other rest ih =>
      refine (ih (r.ignore other)).trans ?_
      simp [ignore]
  refine ⟨r.decoders.map (fun entry => .register entry.1 entry.2) ++ r.ignored.reverse.map .ignore, ?_⟩
  rw [run_append, registers, ignores]
  simp

/-! ### Decoding -/

theorem decode_of_ignored (silenced : r.isIgnored typeUrl = true) :
    r.decode typeUrl message log = .ok ⟨typeUrl, "", []⟩ := by
  unfold decode
  rw [if_pos silenced]

theorem decode_of_firstOk (heard : ¬r.isIgnored typeUrl = true) {result : Except DecodeError Reading}
    (first : FirstOk (fun d : Decoder => d.read typeUrl message log) (r.decodersFor typeUrl) result) :
    r.decode typeUrl message log =
      result.map fun reading => ⟨typeUrl, reading.description, reading.movements⟩ := by
  unfold decode
  rw [if_neg heard, firstReading_eq_firstOk, first.eq]

theorem decode_of_unknown (heard : ¬r.isIgnored typeUrl = true) (none : r.decodersFor typeUrl = []) :
    r.decode typeUrl message log = .error (.unknownMessageType typeUrl) := by
  unfold decode
  rw [if_neg heard, none]
  rfl

theorem decode_of_meaning {result : Except DecodeError Decoded}
    (meaning : Meaning script typeUrl message log result) :
    (run {} script).decode typeUrl message log = result := by
  have silenced := isIgnored_run {} script typeUrl
  have tried : (run {} script).decodersFor typeUrl = registered typeUrl script :=
    decodersFor_run {} script typeUrl
  rw [or_iff_right (show ¬isIgnored {} typeUrl = true by simp [isIgnored])] at silenced
  cases meaning with
  | ignored ignored => exact decode_of_ignored (silenced.mpr ignored)
  | unknown heard nobody =>
    exact decode_of_unknown (mt silenced.mp heard) (tried.trans (registered_eq_nil_iff.mpr nobody))
  | decoded heard first =>
    rw [← tried] at first
    exact decode_of_firstOk (mt silenced.mp heard) first
  | refused heard last =>
    rw [← tried] at last
    exact decode_of_firstOk (mt silenced.mp heard) last

theorem exists_meaning (script : List Step) (typeUrl : String) (message : Json)
    (log : Option LogEntry) : ∃ result, Meaning script typeUrl message log result := by
  by_cases ignored : .ignore typeUrl ∈ script
  · exact ⟨_, .ignored ignored⟩
  by_cases none : registered typeUrl script = []
  · exact ⟨_, .unknown ignored (registered_eq_nil_iff.mp none)⟩
  obtain ⟨result, first⟩ := exists_firstOk none
  cases result with
  | ok reading => exact ⟨_, .decoded ignored first⟩
  | error problem => exact ⟨_, .refused ignored first⟩

theorem decode_run_iff {result : Except DecodeError Decoded} :
    (run {} script).decode typeUrl message log = result ↔ Meaning script typeUrl message log result := by
  refine ⟨?_, decode_of_meaning⟩
  rintro rfl
  obtain ⟨result, meaning⟩ := exists_meaning script typeUrl message log
  rw [decode_of_meaning meaning]
  exact meaning

theorem decode_congr {r r' : Registry}
    (ignored : r.isIgnored typeUrl = true ↔ r'.isIgnored typeUrl = true)
    (tried : r.decodersFor typeUrl = r'.decodersFor typeUrl) :
    r.decode typeUrl message log = r'.decode typeUrl message log := by
  unfold decode
  rw [Bool.eq_iff_iff.mpr ignored, tried]

theorem decode_run_of_ok (heard : .ignore typeUrl ∉ more)
    (success : r.decode typeUrl message log = .ok decoded) :
    (r.run more).decode typeUrl message log = .ok decoded := by
  have same := isIgnored_run r more typeUrl
  rw [or_iff_left heard] at same
  by_cases silenced : r.isIgnored typeUrl = true
  · rw [decode_of_ignored silenced] at success
    rw [decode_of_ignored (same.mpr silenced), success]
  by_cases none : r.decodersFor typeUrl = []
  · rw [decode_of_unknown silenced none] at success
    cases success
  obtain ⟨result, first⟩ := exists_firstOk none
  rw [decode_of_firstOk silenced first] at success
  obtain ⟨reading, rfl, shown⟩ := map_ok success
  -- The decoder that decides is still the first to succeed.
  have still := first.append (registered typeUrl more)
  rw [← decodersFor_run] at still
  rw [decode_of_firstOk (mt same.mp silenced) still, ← shown]
  rfl

/-- Every script has a plain meaning for every type, and every registry comes from a script: an ignored
type gives nothing, one that is neither ignored nor registered is unknown, and otherwise the first
decoder to succeed decides, in the order of registration, or the last one if all fail. So steps for other
types change no message, and further decoders change none that could be decoded. -/
theorem run_decides :
    (∀ (script : List Step) (typeUrl : String) (message : Json) (log : Option LogEntry)
      (result : Except DecodeError Decoded),
      (run {} script).decode typeUrl message log = result ↔
        Meaning script typeUrl message log result) ∧
    (∀ r : Registry, ∃ script, run {} script = r) ∧
    (∀ (r : Registry) (script others : List Step) (typeUrl : String),
      script.filter (fun step => step.typeUrl == typeUrl) =
          others.filter (fun step => step.typeUrl == typeUrl) →
        ∀ (message : Json) (log : Option LogEntry),
          (r.run script).decode typeUrl message log = (r.run others).decode typeUrl message log) ∧
    ∀ (r : Registry) (more : List Step) (typeUrl : String) (message : Json) (log : Option LogEntry)
      (decoded : Decoded), .ignore typeUrl ∉ more →
      r.decode typeUrl message log = .ok decoded →
        (r.run more).decode typeUrl message log = .ok decoded := by
  refine ⟨fun _ _ _ _ _ => decode_run_iff, exists_script, ?_, fun _ _ _ _ _ _ => decode_run_of_ok⟩
  intro r script others typeUrl same message log
  apply decode_congr
  · rw [isIgnored_run, isIgnored_run, ← ignore_mem_filter, same, ignore_mem_filter]
  · rw [decodersFor_run, decodersFor_run, ← registered_filter script, same, registered_filter]

/-- Of three decoders the first refuses and the second decides; a type that is registered and then
ignored gives nothing. -/
theorem run_decides_of_second :
    let refusing := Rehearsal.scriptedDecoder "refusing" (some "no swap")
    let swap := Rehearsal.scriptedDecoder "swap" none
    let other := Rehearsal.scriptedDecoder "other" none
    let script : List Step :=
      [.register "/x.MsgSwap" refusing, .register "/x.MsgVote" other, .register "/x.MsgSwap" swap,
        .ignore "/x.MsgVote"]
    let alone : List Step := [.register "/x.MsgSwap" refusing, .register "/x.MsgSwap" swap]
    let more : List Step := [.register "/x.MsgSwap" other, .ignore "/x.MsgSend"]
    let decoded : Decoded := ⟨"/x.MsgSwap", "swap", [{ sender := "swap" }]⟩
    script.filter (fun step => step.typeUrl == "/x.MsgSwap") =
        alone.filter (fun step => step.typeUrl == "/x.MsgSwap") ∧
      .ignore "/x.MsgSwap" ∉ more ∧
      (run {} script).decode "/x.MsgSwap" .null none = .ok decoded ∧
      (run {} alone).decode "/x.MsgSwap" .null none = .ok decoded ∧
      ((run {} script).run more).decode "/x.MsgSwap" .null none = .ok decoded ∧
      (run {} script).decode "/x.MsgVote" .null none = .ok ⟨"/x.MsgVote", "", []⟩ := by
  intro refusing swap other script alone more decoded
  obtain ⟨means, -, unmoved, kept⟩ := run_decides
  have same : script.filter (fun step => step.typeUrl == "/x.MsgSwap") =
      alone.filter (fun step => step.typeUrl == "/x.MsgSwap") := rfl
  have heard : .ignore "/x.MsgSwap" ∉ more := by simp [more]
  have read : (run {} script).decode "/x.MsgSwap" .null none = .ok decoded := by decide
  have silenced : Meaning script "/x.MsgVote" .null none (.ok ⟨"/x.MsgVote", "", []⟩) :=
    .ignored (by simp [script])
  exact ⟨same, heard, read, (unmoved {} script alone _ same .null none).symm.trans read,
    kept _ more _ _ _ _ heard read, (means script _ _ _ _).mpr silenced⟩

end TaxLedger.Message.Registry
