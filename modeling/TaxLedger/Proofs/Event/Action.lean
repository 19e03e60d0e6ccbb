import Mathlib.Logic.Basic
import TaxLedger.Event.Action

/-!
Actions and the messages that they name. A name is read back from its snake case
(`camelCase_snakeCase`), so that the short action of a message type tells the name of the message, and a
log entry passes for a message exactly if its first action is the type of that message or the short
action of its name (`action_tells_name`).
-/

namespace TaxLedger

/-- A message type as its URL tells it: the package, and a name of ASCII letters and digits that begins
with a capital. -/
structure MessageUrl where
  package : String
  first : Char
  others : List Char
  capital : first.isUpper = true
  plain : ∀ c ∈ others, c.isAlphanum = true

namespace MessageUrl

def name (u : MessageUrl) : String := String.ofList (u.first :: u.others)

def text (u : MessageUrl) : String := "/" ++ u.package ++ ".Msg" ++ u.name

end MessageUrl

/-- The first `message` event of an entry has an action, and the first of its actions is this. -/
def LogEntry.ActsFirst (entry : LogEntry) (action : String) : Prop :=
  ∃ before message after front rest, entry.events = before ++ message :: after ∧
    (∀ e ∈ before, e.kind ≠ "message") ∧ message.kind = "message" ∧
    message.attributes = front ++ ⟨"action", action⟩ :: rest ∧ ∀ a ∈ front, a.key ≠ "action"

/-! ### Snake case -/

def camelTail : List Char → List Char
  | '_' :: c :: cs => c.toUpper :: camelTail cs
  | c :: cs => c :: camelTail cs
  | [] => []

def camelCase : List Char → List Char
  | [] => []
  | c :: cs => c.toUpper :: camelTail cs

theorem isCapital_eq_isUpper (c : Char) : isCapital c = c.isUpper := (Bool.decide_and _ _).symm

theorem toUpper_toLower {c : Char} (capital : c.isUpper = true) : c.toLower.toUpper = c := by
  have all : ∀ n < 91, 65 ≤ n → (Char.ofNat n).toLower.toUpper = Char.ofNat n := by decide
  have range : c.val ≥ 'A'.val ∧ c.val ≤ 'Z'.val := of_decide_eq_true capital
  have low : 65 ≤ c.toNat := range.1
  have high : c.toNat ≤ 90 := range.2
  have own := all c.toNat (by omega) low
  rwa [Char.ofNat_toNat] at own

theorem camelTail_snakeTail {cs : List Char} (plain : ∀ c ∈ cs, c.isAlphanum = true) :
    camelTail (snakeTail cs) = cs := by
  induction cs with
  | nil => rfl
  | cons c cs ih =>
    obtain ⟨own, others⟩ := List.forall_mem_cons.mp plain
    rw [snakeTail, List.flatMap_cons, isCapital_eq_isUpper]
    by_cases capital : c.isUpper = true
    · rw [if_pos capital]
      exact congrArg₂ _ (toUpper_toLower capital) (ih others)
    · have letter : c ≠ '_' := by
        rintro rfl
        exact absurd own (by decide)
      rw [if_neg capital, List.singleton_append, camelTail]
      · exact congrArg _ (ih others)
      · exact fun _ _ same => absurd same letter

theorem camelCase_snakeCase {c : Char} {cs : List Char} (capital : c.isUpper = true)
    (plain : ∀ d ∈ cs, d.isAlphanum = true) : camelCase (snakeCase (c :: cs)) = c :: cs := by
  rw [snakeCase, isCapital_eq_isUpper, if_pos capital, camelCase, toUpper_toLower capital,
    camelTail_snakeTail plain]

/-! ### The part behind the last mark -/

section
variable {mark : Char} {marker rest : List Char}

theorem afterLast?_eq_none (absent : mark ∉ rest) : afterLast? (mark :: marker) rest = none := by
  induction rest with
  | nil => rfl
  | cons c cs ih =>
    obtain ⟨other, later⟩ := List.ne_and_not_mem_of_not_mem_cons absent
    rw [afterLast?, ih later]
    simp [other]

theorem afterLast?_append (single : mark ∉ marker) (absent : mark ∉ rest) (front : List Char) :
    afterLast? (mark :: marker) (front ++ mark :: (marker ++ rest)) = some rest := by
  induction front with
  | nil =>
    have none : afterLast? (mark :: marker) (marker ++ rest) = none :=
      afterLast?_eq_none (by simp [single, absent])
    rw [List.nil_append, afterLast?, none]
    simp
  | cons c front ih => rw [List.cons_append, afterLast?, ih]

end

/-! ### Short actions -/

namespace MessageUrl

variable {u u' : MessageUrl}

theorem toList_text (u : MessageUrl) :
    u.text.toList = ("/" ++ u.package).toList ++ '.' :: ("Msg".toList ++ u.first :: u.others) := by
  simp [text, name, String.toList_append]

theorem point_notMem_name (u : MessageUrl) : '.' ∉ u.first :: u.others := by
  intro member
  rcases List.mem_cons.mp member with first | other
  · have capital := u.capital
    rw [← first] at capital
    revert capital
    decide
  · exact absurd (u.plain _ other) (by decide)

theorem afterLast?_text (u : MessageUrl) :
    afterLast? ".Msg".toList u.text.toList = some (u.first :: u.others) := by
  rw [toList_text]
  exact afterLast?_append (by decide) u.point_notMem_name _

/-- The short action of a message is its name in snake case. -/
theorem legacyAction_text (other : u.name ≠ "Undelegate") :
    legacyAction u.text = String.ofList (snakeCase (u.first :: u.others)) := by
  have open' : ¬".MsgUndelegate".toList.isSuffixOf u.text.toList = true := by
    rw [List.isSuffixOf_iff_suffix]
    rintro ⟨front, whole⟩
    have behind : afterLast? ".Msg".toList u.text.toList = some "Undelegate".toList := by
      rw [← whole]
      exact afterLast?_append (show '.' ∉ "Msg".toList by decide) (by decide) front
    rw [afterLast?_text, Option.some.injEq] at behind
    exact other (by rw [name, behind, String.ofList_toList])
  rw [legacyAction, if_neg open', afterLast?_text]

theorem legacyAction_eq_iff (other : u.name ≠ "Undelegate") (other' : u'.name ≠ "Undelegate") :
    legacyAction u.text = legacyAction u'.text ↔ u.name = u'.name := by
  rw [legacyAction_text other, legacyAction_text other', name, name, String.ofList_inj,
    String.ofList_inj]
  constructor
  · intro same
    rw [← camelCase_snakeCase u.capital u.plain, same, camelCase_snakeCase u'.capital u'.plain]
  · intro same
    rw [same]

/-- A type begins with a slash and a short action with a letter. -/
theorem legacyAction_ne_text (other : u.name ≠ "Undelegate") (u' : MessageUrl) :
    legacyAction u.text ≠ u'.text := by
  intro same
  have first := congrArg (fun text : String => text.toList.head?) same
  have small : u.first.toLower = '/' := by
    simpa [legacyAction_text other, toList_text, snakeCase, isCapital_eq_isUpper, u.capital] using first
  have capital := u.capital
  rw [← toUpper_toLower capital, small] at capital
  revert capital
  decide

end MessageUrl

/-! ### Entries -/

theorem LogEntry.ActsFirst.hasAction {entry : LogEntry} {action : String}
    (acts : entry.ActsFirst action) (typeUrl : String) :
    entry.hasAction typeUrl = true ↔ action = typeUrl ∨ action = legacyAction typeUrl := by
  obtain ⟨before, message, after, front, rest, events, quiet, kind, attributes, silent⟩ := acts
  have found : entry.firstOfKind? "message" = some message := by
    have none : before.find? (fun e => e.kind == "message") = none :=
      List.find?_eq_none.mpr fun e member => by simpa using quiet e member
    rw [LogEntry.firstOfKind?, events, List.find?_append, none, Option.none_or,
      List.find?_cons_of_pos (by simp [kind])]
  have told : message.find? "action" = some action := by
    have none : front.filter (fun a => a.key == "action") = [] :=
      List.filter_eq_nil_iff.mpr fun a member => by simpa using silent a member
    rw [Event.find?, Event.values, attributes, List.filter_append, none, List.nil_append,
      List.filter_cons_of_pos (by simp)]
    rfl
  simp [LogEntry.hasAction, found, told]

/-- An action names one message only, undelegating apart, which goes by another name. Two message types
have the same short action exactly if the names of the messages are equal; an entry that acts first by a
type passes for this type alone, and one that acts by a short action for the types with that name. -/
theorem action_tells_name (u u' : MessageUrl) (other : u.name ≠ "Undelegate")
    (other' : u'.name ≠ "Undelegate") :
    (legacyAction u.text = legacyAction u'.text ↔ u.name = u'.name) ∧
    ∀ entry : LogEntry,
      (entry.ActsFirst u.text → (entry.hasAction u'.text = true ↔ u.text = u'.text)) ∧
      (entry.ActsFirst (legacyAction u.text) →
        (entry.hasAction u'.text = true ↔ u.name = u'.name)) := by
  have names := MessageUrl.legacyAction_eq_iff other other'
  refine ⟨names, fun entry => ⟨fun acts => ?_, fun acts => ?_⟩⟩
  · rw [acts.hasAction, or_iff_left (MessageUrl.legacyAction_ne_text other' u).symm]
  · rw [acts.hasAction, or_iff_right (MessageUrl.legacyAction_ne_text other u'), names]

/-- Two messages of one name in different packages. -/
theorem action_tells_name_of_swaps :
    let older : MessageUrl :=
      ⟨"osmosis.gamm.v1beta1", 'S', "wapExactAmountIn".toList, rfl, List.all_eq_true.mp rfl⟩
    let newer : MessageUrl :=
      ⟨"osmosis.poolmanager.v1beta1", 'S', "wapExactAmountIn".toList, rfl, List.all_eq_true.mp rfl⟩
    let entry (action : String) : LogEntry :=
      ⟨0, [⟨"tx", []⟩,
        ⟨"message", [⟨"sender", "osmo1s"⟩, ⟨"action", action⟩, ⟨"action", "send"⟩]⟩]⟩
    older.name ≠ "Undelegate" ∧ newer.name ≠ "Undelegate" ∧
      legacyAction older.text = "swap_exact_amount_in" ∧ legacyAction older.text = legacyAction newer.text ∧
      (∀ action, (entry action).ActsFirst action) ∧
      (entry (legacyAction older.text)).hasAction newer.text = true ∧
      ¬(entry older.text).hasAction newer.text = true := by
  intro older newer entry
  have other : older.name ≠ "Undelegate" := by decide
  have other' : newer.name ≠ "Undelegate" := by decide
  have acts (action : String) : (entry action).ActsFirst action :=
    ⟨[⟨"tx", []⟩], _, [], [⟨"sender", "osmo1s"⟩], [⟨"action", "send"⟩], rfl, by simp, rfl, rfl, by simp⟩
  obtain ⟨names, passes⟩ := action_tells_name older newer other other'
  have apart : older.text ≠ newer.text := by decide
  refine ⟨other, other', by decide, names.mpr (by decide), acts, ?_, ?_⟩
  · exact ((passes _).2 (acts _)).mpr (by decide)
  · rw [(passes _).1 (acts _)]
    exact apart

end TaxLedger
