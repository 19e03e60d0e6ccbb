import Mathlib.Data.List.TakeWhile
import TaxLedger.Node.Url
import TaxLedger.Proofs.Text.Blank
import TaxLedger.Proofs.Text.Digits

/-!
Node addresses in full. What is left open is filled in: every address without blanks becomes one with a
scheme, a port and no slash at its end, and the addresses that are so already are the ones that stay as
they are (`normalize_complete`).
-/

namespace TaxLedger.NodeUrl

open Text

/-- A path that is not there, or one from the first slash on that does not end in a slash. -/
def IsPath (path : List Char) : Prop :=
  path = [] ∨ path.head? = some '/' ∧ path.getLast? ≠ some '/'

def IsScheme (scheme : List Char) : Prop := scheme = "http".toList ∨ scheme = "https".toList

/-- An address with a scheme, a host with a port, and a path. -/
inductive Complete : String → Prop
  | intro {scheme host port path : List Char} (known : IsScheme scheme) (whole : '/' ∉ host)
      (filled : port ≠ []) (digits : ∀ c ∈ port, c.isDigit = true) (ends : IsPath path) :
      Complete (String.ofList (scheme ++ "://".toList ++ (host ++ ':' :: port ++ path)))

/-- The address of a host and a path, with the port of the scheme if the host has none. -/
def completed (scheme host path : List Char) : String :=
  if hasPort host then String.ofList (scheme ++ "://".toList ++ (host ++ path))
  else
    String.ofList scheme ++ "://" ++ String.ofList host ++
      (if scheme = "https".toList then ":443" else ":80") ++ String.ofList path

variable {scheme host port path rest slashes : List Char}

/-! ### Ports -/

/-- What is behind the last colon. -/
theorem portOf_append (single : ':' ∉ port) (host : List Char) :
    ((host ++ ':' :: port).reverse.takeWhile (· != ':')).reverse = port := by
  have plain : ∀ c ∈ port.reverse, (c != ':') = true := by
    intro c member
    have apart : c ≠ ':' := fun same => single (same ▸ List.mem_reverse.mp member)
    simpa using apart
  rw [List.reverse_append, List.reverse_cons, List.append_assoc, List.takeWhile_append_of_pos plain]
  simp

theorem hasPort_append (filled : port ≠ []) (digits : ∀ c ∈ port, c.isDigit = true)
    (host : List Char) : hasPort (host ++ ':' :: port) = true := by
  have single : ':' ∉ port := fun member => absurd (digits _ member) (by decide)
  have all : port.all isDigit = true := List.all_eq_true.mpr fun c member => by
    rw [isDigit_eq, digits c member]
  rw [hasPort, portOf_append single, all, List.isEmpty_eq_false_iff.mpr filled]
  simp

theorem exists_port (ported : hasPort host = true) :
    ∃ name port, host = name ++ ':' :: port ∧ port ≠ [] ∧ ∀ c ∈ port, c.isDigit = true := by
  simp only [hasPort, Bool.and_eq_true, List.contains_iff_mem, Bool.not_eq_true'] at ported
  obtain ⟨⟨colon, filled⟩, digits⟩ := ported
  obtain ⟨back, front, parts, single⟩ := List.eq_append_cons_of_mem (List.mem_reverse.mpr colon)
  have whole : host = front.reverse ++ ':' :: back.reverse := by
    rw [← List.reverse_reverse host, parts]
    simp
  have single' : ':' ∉ back.reverse := by simpa using single
  have behind := portOf_append single' front.reverse
  rw [← whole] at behind
  rw [behind] at filled digits
  exact ⟨front.reverse, back.reverse, whole, List.isEmpty_eq_false_iff.mp filled,
    fun c member => isDigit_eq c ▸ List.all_eq_true.mp digits c member⟩

/-! ### Parts of an address -/

theorem splitFirst?_scheme (known : IsScheme scheme) (rest : List Char) :
    splitFirst? "://".toList (scheme ++ "://".toList ++ rest) = some (scheme, rest) := by
  rcases known with rfl | rfl <;> rfl

theorem opens_scheme (known : IsScheme scheme) (rest : List Char) :
    ("http://".toList.isPrefixOf (scheme ++ "://".toList ++ rest) ||
      "https://".toList.isPrefixOf (scheme ++ "://".toList ++ rest)) = true := by
  rcases known with rfl | rfl <;> rfl

theorem visible_scheme (known : IsScheme scheme) : ∀ c ∈ scheme ++ "://".toList, isBlank c = false := by
  rcases known with rfl | rfl <;> exact visible_of_all rfl

section
variable (whole : '/' ∉ host) (ends : IsPath path)
include whole ends

theorem takeWhile_host : (host ++ path).takeWhile (· != '/') = host := by
  have plain : ∀ c ∈ host, (c != '/') = true := by
    intro c member
    have apart : c ≠ '/' := fun same => whole (same ▸ member)
    simpa using apart
  have stops : path.takeWhile (· != '/') = [] := by
    rcases ends with rfl | ⟨first, -⟩
    · rfl
    · exact takeWhile_of_head fun c head => by
        rw [first, Option.some.injEq] at head
        subst head
        rfl
  rw [List.takeWhile_append_of_pos plain, stops, List.append_nil]

theorem dropWhile_host : (host ++ path).dropWhile (· != '/') = path := by
  have parts := List.takeWhile_append_dropWhile (p := (· != '/')) (l := host ++ path)
  rw [takeWhile_host whole ends] at parts
  exact List.append_cancel_left parts

theorem getLast?_host_path : (host ++ path).getLast? ≠ some '/' := by
  rcases ends with rfl | ⟨first, last⟩
  · rw [List.append_nil]
    exact fun last => whole (List.mem_of_getLast? last)
  · have filled : path ≠ [] := by
      rintro rfl
      cases first
    rwa [List.getLast?_append_of_ne_nil _ filled]

end

theorem withPort_of_scheme (known : IsScheme scheme) (whole : '/' ∉ host) (ends : IsPath path) :
    withPort (scheme ++ "://".toList ++ (host ++ path)) = completed scheme host path := by
  unfold withPort
  rw [splitFirst?_scheme known]
  simp only [Option.getD_some, takeWhile_host whole ends, dropWhile_host whole ends]
  rfl

/-! ### Addresses with a scheme -/

theorem normalize_eq {cs : List Char} (visible : ∀ c ∈ cs, isBlank c = false) :
    normalize (String.ofList cs) =
      withPort (dropEndWhile (· == '/')
        (if "http://".toList.isPrefixOf cs || "https://".toList.isPrefixOf cs then cs
          else "http://".toList ++ cs)) := by
  unfold normalize
  rw [String.toList_ofList (l := cs), trimChars_of_trimmed (trimmed_of_forall visible)]

theorem normalize_scheme (known : IsScheme scheme) (visible : ∀ c ∈ rest, isBlank c = false) :
    normalize (String.ofList (scheme ++ "://".toList ++ rest)) =
      withPort (dropEndWhile (· == '/') (scheme ++ "://".toList ++ rest)) := by
  have all := List.forall_mem_append.mpr ⟨visible_scheme known, visible⟩
  rw [normalize_eq all, opens_scheme known, if_pos rfl]

/-- A host and a path behind a scheme stay, and slashes behind them go. -/
theorem normalize_parts (known : IsScheme scheme) (whole : '/' ∉ host) (ends : IsPath path)
    (filled : host ++ path ≠ []) (visible : ∀ c ∈ host ++ path, isBlank c = false)
    (level : ∀ c ∈ slashes, c = '/') :
    normalize (String.ofList (scheme ++ "://".toList ++ (host ++ path ++ slashes))) =
      completed scheme host path := by
  have all : ∀ c ∈ host ++ path ++ slashes, isBlank c = false :=
    List.forall_mem_append.mpr ⟨visible, fun c member => by rw [level c member]; rfl⟩
  have cut : dropEndWhile (· == '/') (scheme ++ "://".toList ++ (host ++ path ++ slashes)) =
      scheme ++ "://".toList ++ (host ++ path) := by
    rw [← List.append_assoc, dropEndWhile_append_of_all fun c member => by simpa using level c member]
    refine dropEndWhile_of_last fun c last => ?_
    rw [List.getLast?_append_of_ne_nil _ filled] at last
    have apart : c ≠ '/' := fun same => getLast?_host_path whole ends (same ▸ last)
    simpa using apart
  rw [normalize_scheme known all, cut, withPort_of_scheme known whole ends]

/-- A scheme without a host is taken for a host without a scheme. -/
theorem normalize_bare (known : IsScheme scheme) (level : ∀ c ∈ slashes, c = '/') :
    normalize (String.ofList (scheme ++ "://".toList ++ slashes)) =
      completed "http".toList (scheme ++ [':']) [] := by
  have all : ∀ c ∈ slashes, isBlank c = false := fun c member => by rw [level c member]; rfl
  have cut : dropEndWhile (· == '/') (scheme ++ "://".toList ++ slashes) = scheme ++ [':'] := by
    rw [dropEndWhile_append_of_all fun c member => by simpa using level c member]
    rcases known with rfl | rfl <;> rfl
  rw [normalize_scheme known all, cut]
  rcases known with rfl | rfl <;> rfl

/-! ### All addresses -/

theorem isPath_dropWhile {front : List Char} (last : front.getLast? ≠ some '/') :
    IsPath (front.dropWhile (· != '/')) := by
  by_cases none : front.dropWhile (· != '/') = []
  · exact .inl none
  · refine .inr ⟨?_, ?_⟩
    · have stop := List.head_dropWhile_not (· != '/') none
      rw [List.head?_eq_some_head none, Option.some.injEq]
      simpa using stop
    · rw [← List.takeWhile_append_dropWhile (p := (· != '/')) (l := front),
        List.getLast?_append_of_ne_nil _ none] at last
      exact last

/-- An address without a scheme is read as one with the plain scheme. -/
theorem exists_scheme {cs : List Char} (visible : ∀ c ∈ cs, isBlank c = false) :
    ∃ scheme rest, IsScheme scheme ∧ (∀ c ∈ rest, isBlank c = false) ∧
      normalize (String.ofList cs) = normalize (String.ofList (scheme ++ "://".toList ++ rest)) := by
  by_cases opens : ("http://".toList.isPrefixOf cs || "https://".toList.isPrefixOf cs) = true
  · rw [Bool.or_eq_true, List.isPrefixOf_iff_prefix, List.isPrefixOf_iff_prefix] at opens
    rcases opens with ⟨rest, rfl⟩ | ⟨rest, rfl⟩
    · exact ⟨"http".toList, rest, .inl rfl, (List.forall_mem_append.mp visible).2, rfl⟩
    · exact ⟨"https".toList, rest, .inr rfl, (List.forall_mem_append.mp visible).2, rfl⟩
  · refine ⟨"http".toList, cs, .inl rfl, visible, ?_⟩
    rw [normalize_scheme (.inl rfl) visible, normalize_eq visible, if_neg opens]
    rfl

theorem exists_parts {cs : List Char} (visible : ∀ c ∈ cs, isBlank c = false) :
    ∃ scheme host path, IsScheme scheme ∧ '/' ∉ host ∧ IsPath path ∧
      (∀ c ∈ host ++ path, isBlank c = false) ∧
      normalize (String.ofList cs) = completed scheme host path := by
  obtain ⟨scheme, rest, known, seen, same⟩ := exists_scheme visible
  have parts : rest.rdropWhile (· == '/') ++ rest.rtakeWhile (· == '/') = rest :=
    List.rdropWhile_append_rtakeWhile
  have level : ∀ c ∈ rest.rtakeWhile (· == '/'), c = '/' := fun c member => by
    simpa using List.mem_rtakeWhile_imp member
  rw [← parts] at same seen
  by_cases none : rest.rdropWhile (· == '/') = []
  · rw [none, List.nil_append, normalize_bare known level] at same
    refine ⟨"http".toList, scheme ++ [':'], [], .inl rfl, ?_, .inl rfl, ?_, same⟩
    · rcases known with rfl | rfl <;> decide
    · rcases known with rfl | rfl <;> exact visible_of_all rfl
  · have last : (rest.rdropWhile (· == '/')).getLast? ≠ some '/' := by
      rw [List.getLast?_eq_some_getLast none, ne_eq, Option.some.injEq]
      simpa using List.rdropWhile_last_not (· == '/') rest none
    generalize rest.rdropWhile (· == '/') = front at same seen none last
    have whole : '/' ∉ front.takeWhile (· != '/') := fun member => by
      simpa using List.mem_takeWhile_imp member
    have whole' := List.takeWhile_append_dropWhile (p := (· != '/')) (l := front)
    have ends := isPath_dropWhile last
    rw [← whole'] at same seen none
    have visible' := (List.forall_mem_append.mp seen).1
    exact ⟨scheme, _, _, known, whole, ends, visible',
      same.trans (normalize_parts known whole ends none visible' level)⟩

theorem exists_completed (scheme host path : List Char) :
    ∃ name port, name ⊆ host ∧ port ≠ [] ∧ (∀ c ∈ port, c.isDigit = true) ∧
      completed scheme host path =
        String.ofList (scheme ++ "://".toList ++ (name ++ ':' :: port ++ path)) := by
  unfold completed
  split
  · rename_i ported
    obtain ⟨name, port, rfl, filled, digits⟩ := exists_port ported
    exact ⟨name, port, List.subset_append_left _ _, filled, digits, rfl⟩
  · have written (number : String) :
        String.ofList scheme ++ "://" ++ String.ofList host ++ (":" ++ number) ++ String.ofList path =
          String.ofList (scheme ++ "://".toList ++ (host ++ ':' :: number.toList ++ path)) := by
      apply String.toList_injective
      simp [String.toList_append]
    split
    · exact ⟨host, "443".toList, List.Subset.refl _, by decide, List.all_eq_true.mp rfl, written "443"⟩
    · exact ⟨host, "80".toList, List.Subset.refl _, by decide, List.all_eq_true.mp rfl, written "80"⟩

theorem complete_completed (known : IsScheme scheme) (whole : '/' ∉ host) (ends : IsPath path) :
    Complete (completed scheme host path) := by
  obtain ⟨name, port, inside, filled, digits, text⟩ := exists_completed scheme host path
  rw [text]
  exact .intro known (fun member => whole (inside member)) filled digits ends

theorem visible_completed (known : IsScheme scheme) (visible : ∀ c ∈ host ++ path, isBlank c = false) :
    ∀ c ∈ (completed scheme host path).toList, isBlank c = false := by
  obtain ⟨name, port, inside, -, digits, text⟩ := exists_completed scheme host path
  obtain ⟨before, behind⟩ := List.forall_mem_append.mp visible
  rw [text, String.toList_ofList]
  refine List.forall_mem_append.mpr ⟨visible_scheme known, ?_⟩
  rw [List.forall_mem_append, List.forall_mem_append, List.forall_mem_cons]
  exact ⟨⟨fun c member => before c (inside member), by decide,
    fun c member => isBlank_of_isDigit (digits c member)⟩, behind⟩

theorem normalize_of_complete {address : String} (complete : Complete address)
    (visible : ∀ c ∈ address.toList, isBlank c = false) : normalize address = address := by
  cases complete with
  | @intro scheme host port path known whole filled digits ends =>
    have whole' : '/' ∉ host ++ ':' :: port := by
      simp only [List.mem_append, List.mem_cons, not_or]
      exact ⟨whole, by decide, fun member => absurd (digits _ member) (by decide)⟩
    have visible' : ∀ c ∈ host ++ ':' :: port ++ path, isBlank c = false := by
      rw [String.toList_ofList] at visible
      exact (List.forall_mem_append.mp visible).2
    have level : ∀ c ∈ ([] : List Char), c = '/' := nofun
    have parts := normalize_parts known whole' ends (by simp) visible' level
    rw [List.append_nil] at parts
    rw [parts, completed, if_pos (hasPort_append filled digits host)]

/-- Every address without blanks is filled in: it gets a scheme, a host with a port and no slash at its
end. Filling in again changes nothing, and exactly the addresses that have all this stay as they are. -/
theorem normalize_complete (address : String) (visible : ∀ c ∈ address.toList, isBlank c = false) :
    Complete (normalize address) ∧ normalize (normalize address) = normalize address ∧
      (normalize address = address ↔ Complete address) := by
  obtain ⟨scheme, host, path, known, whole, ends, seen, same⟩ := exists_parts visible
  rw [String.ofList_toList] at same
  have complete : Complete (normalize address) := same ▸ complete_completed known whole ends
  have visible' : ∀ c ∈ (normalize address).toList, isBlank c = false :=
    same ▸ visible_completed known seen
  exact ⟨complete, normalize_of_complete complete visible', fun stays => stays ▸ complete,
    fun already => normalize_of_complete already visible⟩

/-- The scheme of secure addresses without a host becomes the host of another address. -/
theorem normalize_complete_of_bare :
    (∀ c ∈ "https:///".toList, isBlank c = false) ∧ normalize "https:///" = "http://https::80" ∧
      Complete "http://https::80" ∧ normalize "http://https::80" = "http://https::80" := by
  have visible : ∀ c ∈ "https:///".toList, isBlank c = false := visible_of_all rfl
  have filled : normalize "https:///" = "http://https::80" := by decide
  obtain ⟨complete, again, -⟩ := normalize_complete "https:///" visible
  rw [filled] at complete again
  exact ⟨visible, filled, complete, again⟩

end TaxLedger.NodeUrl
