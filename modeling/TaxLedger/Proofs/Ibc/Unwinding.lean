import Mathlib.Data.List.Basic
import TaxLedger.Ibc.Denom

/-!
Coins that travel a route of channels and come back on it. On the way out every chain credits the
denomination of the trace that has grown so far, and on the way back every chain credits the one that it
knows the coin by (`vouchers_unwind`).
-/

namespace TaxLedger.Ibc

/-! ### Segments of a trace -/

theorem splitChars_ne_nil (c : Char) (cs : List Char) : Coin.splitChars c cs ≠ [] := by
  cases cs with
  | nil => simp [Coin.splitChars]
  | cons x rest =>
    rw [Coin.splitChars]
    split
    · simp
    · split <;> simp

theorem splitChars_append {c : Char} {segment : List Char} (rest : List Char)
    (whole : c ∉ segment) :
    Coin.splitChars c (segment ++ c :: rest) = segment :: Coin.splitChars c rest := by
  induction segment with
  | nil => simp [Coin.splitChars]
  | cons x segment ih =>
    rw [List.mem_cons, not_or] at whole
    rw [List.cons_append, Coin.splitChars, if_neg (Ne.symm whole.1), ih whole.2]

/-! ### Hops -/

/-- The trace of a coin behind a hop, where the coin does not come home. -/
def Route.extend (hop : Route) (trace : String) : String :=
  hop.destinationPort ++ "/" ++ hop.destinationChannel ++ "/" ++ trace

def Route.back (hop : Route) : Route :=
  ⟨hop.destinationPort, hop.destinationChannel, hop.sourcePort, hop.sourceChannel⟩

/-- A hop whose far end can be told apart in a trace. -/
structure Route.Arrives (hop : Route) : Prop where
  port : '/' ∉ hop.destinationPort.toList
  channel : '/' ∉ hop.destinationChannel.toList
  named : isChannel hop.destinationChannel.toList = true

/-- What a trace starts with if the coin took the hop in the other direction. -/
def Route.origin (hop : Route) : String := hop.sourcePort ++ "/" ++ hop.sourceChannel ++ "/"

theorem toList_extend (hop : Route) (trace : String) :
    (hop.extend trace).toList =
      hop.destinationPort.toList ++ '/' :: (hop.destinationChannel.toList ++ '/' :: trace.toList) := by
  simp [Route.extend, String.toList_append]

theorem receivedDenom_eq (hop : Route) (trace : String) :
    receivedDenom hop trace =
      match dropFront? hop.origin.toList trace.toList with
      | some unwound => localDenom (String.ofList unwound)
      | none => voucher (hop.extend trace) :=
  rfl

theorem localDenom_extend {hop : Route} (arrives : hop.Arrives) (trace : String) :
    localDenom (hop.extend trace) = voucher (hop.extend trace) := by
  have hopped : startsWithHop (Coin.splitChars '/' (hop.extend trace).toList) = true := by
    rw [toList_extend, splitChars_append _ arrives.port, splitChars_append _ arrives.channel]
    cases base : Coin.splitChars '/' trace.toList with
    | nil => exact absurd base (splitChars_ne_nil _ _)
    | cons segment rest => exact arrives.named
  rw [localDenom, if_pos hopped]

theorem receivedDenom_out {hop : Route} {trace : String}
    (onward : ¬hop.origin.toList <+: trace.toList) :
    receivedDenom hop trace = voucher (hop.extend trace) := by
  have kept : dropFront? hop.origin.toList trace.toList = none := by
    rw [dropFront?, if_neg]
    rwa [List.isPrefixOf_iff_prefix]
  rw [receivedDenom_eq, kept]

theorem receivedDenom_back (hop : Route) (trace : String) :
    receivedDenom hop.back (hop.extend trace) = localDenom trace := by
  have text : (hop.extend trace).toList = hop.back.origin.toList ++ trace.toList := by
    simp [Route.extend, Route.origin, Route.back, String.toList_append]
  have unwound : dropFront? hop.back.origin.toList (hop.extend trace).toList = some trace.toList := by
    rw [text, dropFront?, if_pos, List.drop_left]
    exact List.isPrefixOf_iff_prefix.mpr (List.prefix_append _ _)
  rw [receivedDenom_eq, unwound]
  simp only [String.ofList_toList]

/-! ### Routes -/

/-- The traces of a coin along a route, from where it sets out to where it ends. -/
def traces (base : String) : List Route → List String
  | [] => [base]
  | hop :: rest => base :: traces (hop.extend base) rest

/-- No hop of a route takes the coin back through the channel it came from. -/
def Onward (base : String) : List Route → Prop
  | [] => True
  | hop :: rest => ¬hop.origin.toList <+: base.toList ∧ Onward (hop.extend base) rest

def creditsOut (base : String) : List Route → List String
  | [] => []
  | hop :: rest => receivedDenom hop base :: creditsOut (hop.extend base) rest

def creditsBack (base : String) : List Route → List String
  | [] => []
  | hop :: rest =>
    creditsBack (hop.extend base) rest ++ [receivedDenom hop.back (hop.extend base)]

theorem traces_eq_cons (base : String) (hops : List Route) :
    traces base hops = base :: (traces base hops).tail := by
  cases hops <;> rfl

theorem traces_ne_nil (base : String) (hops : List Route) : traces base hops ≠ [] := by
  rw [traces_eq_cons]
  exact List.cons_ne_nil _ _

theorem creditsOut_eq {base : String} {hops : List Route} (arrive : ∀ hop ∈ hops, hop.Arrives)
    (onward : Onward base hops) : creditsOut base hops = (traces base hops).tail.map localDenom := by
  induction hops generalizing base with
  | nil => rfl
  | cons hop rest ih =>
    obtain ⟨first, later⟩ := onward
    have credited : receivedDenom hop base = localDenom (hop.extend base) := by
      rw [receivedDenom_out first, localDenom_extend (arrive hop List.mem_cons_self)]
    have tail := ih (fun h member => arrive h (List.mem_cons_of_mem _ member)) later
    rw [creditsOut, credited, tail, traces, List.tail_cons, traces_eq_cons (hop.extend base) rest]
    rfl

theorem creditsBack_eq (base : String) (hops : List Route) :
    creditsBack base hops = ((traces base hops).dropLast.map localDenom).reverse := by
  induction hops generalizing base with
  | nil => rfl
  | cons hop rest ih =>
    rw [creditsBack, ih, receivedDenom_back, traces,
      List.dropLast_cons_of_ne_nil (traces_ne_nil _ _), List.map_cons, List.reverse_cons]

/-- Out and back along a route: every chain credits the denomination of the trace that the coin has
there, so that on the way back each chain credits what it credited on the way out, and the chain of
origin credits the denomination that the coin set out with. -/
theorem vouchers_unwind {base : String} {hops : List Route} (arrive : ∀ hop ∈ hops, hop.Arrives)
    (onward : Onward base hops) :
    creditsOut base hops = (traces base hops).tail.map localDenom ∧
      creditsBack base hops = ((traces base hops).dropLast.map localDenom).reverse ∧
      creditsBack base hops = (localDenom base :: creditsOut base hops).dropLast.reverse := by
  have out := creditsOut_eq arrive onward
  have known : localDenom base :: creditsOut base hops = (traces base hops).map localDenom := by
    rw [out, traces_eq_cons base hops]
    rfl
  refine ⟨out, creditsBack_eq base hops, ?_⟩
  rw [known, creditsBack_eq, List.map_dropLast]

def trip : List Route :=
  [⟨"transfer", "channel-0", "transfer", "channel-141"⟩,
    ⟨"transfer", "channel-7", "transfer", "channel-9"⟩]

/-- A pool share, whose name has slashes of its own, goes out over two chains and comes home. -/
theorem vouchers_unwind_of_trip :
    creditsOut "gamm/pool/1" trip =
        ["transfer/channel-141/gamm/pool/1",
          "transfer/channel-9/transfer/channel-141/gamm/pool/1"].map voucher ∧
      creditsBack "gamm/pool/1" trip =
        [voucher "transfer/channel-141/gamm/pool/1", "gamm/pool/1"] := by
  have arrive : ∀ hop ∈ trip, hop.Arrives := by
    intro hop member
    simp only [trip, List.mem_cons, List.not_mem_nil, or_false] at member
    rcases member with rfl | rfl
    · exact ⟨by decide, by decide, by decide⟩
    · exact ⟨by decide, by decide, by decide⟩
  have onward : Onward "gamm/pool/1" trip := ⟨by decide, by decide, trivial⟩
  obtain ⟨out, back, _⟩ := vouchers_unwind arrive onward
  have bare : localDenom "gamm/pool/1" = "gamm/pool/1" := if_neg (by decide)
  have near : localDenom "transfer/channel-141/gamm/pool/1" =
      voucher "transfer/channel-141/gamm/pool/1" := if_pos (by decide)
  have far : localDenom "transfer/channel-9/transfer/channel-141/gamm/pool/1" =
      voucher "transfer/channel-9/transfer/channel-141/gamm/pool/1" := if_pos (by decide)
  constructor
  · rw [out]
    exact congrArg₂ List.cons near (congrArg₂ List.cons far rfl)
  · rw [back]
    exact congrArg₂ List.cons near (congrArg₂ List.cons bare rfl)

end TaxLedger.Ibc
