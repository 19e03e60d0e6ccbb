import Mathlib.Data.List.DropRight
import TaxLedger.Text.Blank

/-!
Blanks at the ends of a text. What is put around a text that neither begins nor ends with a blank goes
again (`trimChars_padded`), and nothing but blanks is ever taken away (`exists_padding`).
-/

namespace TaxLedger.Text

def Blank (cs : List Char) : Prop := ∀ c ∈ cs, isBlank c = true

instance (cs : List Char) : Decidable (Blank cs) :=
  decidable_of_iff (cs.all isBlank = true) List.all_eq_true

def Trimmed (cs : List Char) : Prop :=
  (∀ c, cs.head? = some c → isBlank c = false) ∧ ∀ c, cs.getLast? = some c → isBlank c = false

/-- The visible characters of ASCII are no blanks. -/
theorem isBlank_of_visible {c : Char} (low : 33 ≤ c.toNat) (high : c.toNat ≤ 126) :
    isBlank c = false := by
  simp only [isBlank, Bool.or_eq_false_iff, Bool.and_eq_false_iff, decide_eq_false_iff_not,
    beq_eq_false_iff_ne]
  omega

theorem isBlank_of_isDigit {c : Char} (digit : c.isDigit = true) : isBlank c = false := by
  rw [Char.isDigit, Bool.and_eq_true, decide_eq_true_eq, decide_eq_true_eq] at digit
  have low : 48 ≤ c.toNat := digit.1
  have high : c.toNat ≤ 57 := digit.2
  exact isBlank_of_visible (by omega) (by omega)

theorem visible_of_all {cs : List Char} (all : cs.all (fun c => !isBlank c) = true) :
    ∀ c ∈ cs, isBlank c = false := by
  simpa using all

theorem Blank.nil : Blank [] := nofun

theorem Blank.append {cs ds : List Char} (first : Blank cs) (second : Blank ds) : Blank (cs ++ ds) := by
  intro c member
  rcases List.mem_append.mp member with before | behind
  · exact first c before
  · exact second c behind

theorem trimmed_of_forall {cs : List Char} (none : ∀ c ∈ cs, isBlank c = false) : Trimmed cs :=
  ⟨fun c first => none c (List.mem_of_head? first), fun c last => none c (List.mem_of_getLast? last)⟩

theorem trimmed_around {front back : List Char} (filled : front ≠ []) (filled' : back ≠ [])
    (visible : ∀ c ∈ front, isBlank c = false) (visible' : ∀ c ∈ back, isBlank c = false)
    (between : List Char) : Trimmed (front ++ between ++ back) := by
  constructor
  · intro c first
    rw [List.append_assoc, List.head?_append_of_ne_nil _ filled] at first
    exact visible c (List.mem_of_head? first)
  · intro c last
    rw [List.getLast?_append_of_ne_nil _ filled'] at last
    exact visible' c (List.mem_of_getLast? last)

theorem dropWhile_of_head {p : Char → Bool} {cs : List Char}
    (stops : ∀ c, cs.head? = some c → p c = false) : cs.dropWhile p = cs := by
  cases cs with
  | nil => rfl
  | cons c cs => rw [List.dropWhile_cons_of_neg (by simp [stops c rfl])]

theorem takeWhile_of_head {p : Char → Bool} {cs : List Char}
    (stops : ∀ c, cs.head? = some c → p c = false) : cs.takeWhile p = [] := by
  cases cs with
  | nil => rfl
  | cons c cs => rw [List.takeWhile_cons_of_neg (by simp [stops c rfl])]

theorem dropEndWhile_append_of_all {p : Char → Bool} {back : List Char}
    (all : ∀ c ∈ back, p c = true) (front : List Char) :
    dropEndWhile p (front ++ back) = dropEndWhile p front := by
  rw [dropEndWhile, dropEndWhile, List.reverse_append,
    List.dropWhile_append_of_pos fun c member => all c (List.mem_reverse.mp member)]

theorem dropEndWhile_of_last {p : Char → Bool} {cs : List Char}
    (stops : ∀ c, cs.getLast? = some c → p c = false) : dropEndWhile p cs = cs := by
  rw [dropEndWhile, dropWhile_of_head fun c last => stops c (by rwa [List.head?_reverse] at last),
    List.reverse_reverse]

theorem trimChars_padded {front core back : List Char} (before : Blank front) (behind : Blank back)
    (trimmed : Trimmed core) : trimChars (front ++ core ++ back) = core := by
  rw [trimChars, List.append_assoc, List.dropWhile_append_of_pos before]
  cases core with
  | nil =>
    rw [List.nil_append, List.dropWhile_eq_nil_iff.mpr behind]
    rfl
  | cons first core =>
    have stops : (first :: core ++ back).dropWhile isBlank = first :: core ++ back :=
      dropWhile_of_head fun c same => trimmed.1 c same
    rw [stops, dropEndWhile_append_of_all behind, dropEndWhile_of_last trimmed.2]

theorem trimChars_of_trimmed {cs : List Char} (trimmed : Trimmed cs) : trimChars cs = cs := by
  have padded : trimChars ([] ++ cs ++ []) = cs := trimChars_padded .nil .nil trimmed
  rwa [List.nil_append, List.append_nil] at padded

theorem exists_padding (cs : List Char) :
    ∃ front back, Blank front ∧ Blank back ∧ cs = front ++ trimChars cs ++ back := by
  refine ⟨cs.takeWhile isBlank, (cs.dropWhile isBlank).rtakeWhile isBlank,
    fun c member => List.mem_takeWhile_imp member, fun c member => List.mem_rtakeWhile_imp member, ?_⟩
  have ends : trimChars cs ++ (cs.dropWhile isBlank).rtakeWhile isBlank = cs.dropWhile isBlank :=
    List.rdropWhile_append_rtakeWhile
  rw [List.append_assoc, ends, List.takeWhile_append_dropWhile]

theorem trimChars_eq_nil_iff {cs : List Char} : trimChars cs = [] ↔ Blank cs := by
  constructor
  · intro none
    obtain ⟨front, back, before, behind, whole⟩ := exists_padding cs
    rw [whole, none, List.append_nil]
    exact before.append behind
  · intro blank
    have padded : trimChars (cs ++ [] ++ []) = [] := trimChars_padded blank .nil ⟨nofun, nofun⟩
    rwa [List.append_nil, List.append_nil] at padded

theorem trim_ofList (cs : List Char) : trim (String.ofList cs) = String.ofList (trimChars cs) := by
  rw [trim, String.toList_ofList]

end TaxLedger.Text
