import Mathlib.Data.String.Basic
import TaxLedger.Config.Basic
import TaxLedger.Proofs.Config.Path
import TaxLedger.Proofs.Result

/-!
Overrides from the environment. There is one for each variable that is meant, in an order of their own, so
that the order of the variables counts for nothing (`environment_order_irrelevant`); of variables that spell
one key only the greatest value counts (`load_outdone`).
-/

namespace TaxLedger.Config

/-- A variable that overrides a setting: behind the start of its name there is a double underscore. -/
def Overriding (name : String) : Prop :=
  ∃ rest, name.toList = overrideStart ++ rest ∧ ['_', '_'] <:+: rest

/-- The key that the name of an overriding variable spells. -/
def settingKey (name : String) : String :=
  String.intercalate "." ((splitDouble (name.toList.drop overrideStart.length)).map settingName)

def InOrder (a b : String × String) : Prop := a.1 < b.1 ∨ a.1 = b.1 ∧ a.2 ≤ b.2

/-! ### Names -/

theorem stripStart?_eq_some_iff {start cs rest : List Char} :
    stripStart? start cs = some rest ↔ cs = start ++ rest := by
  induction start generalizing cs with
  | nil => simp [stripStart?]
  | cons s start ih =>
    cases cs with
    | nil => simp [stripStart?]
    | cons c cs =>
      rw [stripStart?, List.cons_append, List.cons.injEq]
      split
      · rename_i same
        rw [ih]
        exact ⟨fun rest => ⟨same.symm, rest⟩, And.right⟩
      · rename_i other
        exact ⟨nofun, fun both => absurd both.1.symm other⟩

theorem splitDouble_ne_nil (cs : List Char) : splitDouble cs ≠ [] := by
  fun_cases splitDouble cs <;> simp

theorem two_le_splitDouble_iff (cs : List Char) :
    2 ≤ (splitDouble cs).length ↔ ['_', '_'] <:+: cs := by
  induction cs using splitDouble.induct with
  | case1 => simp [splitDouble]
  | case2 cs ih =>
    have filled := List.length_pos_iff.mpr (splitDouble_ne_nil cs)
    rw [splitDouble, List.length_cons]
    exact ⟨fun _ => ⟨[], cs, rfl⟩, fun _ => by omega⟩
  | case3 c cs single part parts split ih =>
    have behind : ¬['_', '_'] <+: c :: cs := by
      rw [List.cons_prefix_cons]
      rintro ⟨rfl, rest, rfl⟩
      exact single rest rfl rfl
    rw [split] at ih
    rw [splitDouble, split, List.infix_cons_iff, or_iff_right behind, ← ih]
    · rfl
    · exact single
  | case4 c cs single none ih => exact absurd none (splitDouble_ne_nil cs)

theorem overridePath?_eq_some_iff {name key : String} :
    overridePath? name = some key ↔ Overriding name ∧ settingKey name = key := by
  unfold overridePath?
  cases strip : stripStart? overrideStart name.toList with
  | none =>
    refine ⟨nofun, ?_⟩
    rintro ⟨⟨rest, starts, -⟩, -⟩
    rw [stripStart?_eq_some_iff.mpr starts] at strip
    cases strip
  | some rest =>
    have starts := stripStart?_eq_some_iff.mp strip
    have meant : Overriding name ↔ ['_', '_'] <:+: rest := by
      refine ⟨?_, fun inside => ⟨rest, starts, inside⟩⟩
      rintro ⟨own, starts', inside⟩
      rw [List.append_cancel_left (starts.symm.trans starts')]
      exact inside
    have spelled : settingKey name = String.intercalate "." ((splitDouble rest).map settingName) := by
      rw [settingKey, starts, List.drop_left]
    rw [meant, ← two_le_splitDouble_iff, spelled]
    dsimp only
    cases parts : splitDouble rest with
    | nil => exact absurd parts (splitDouble_ne_nil rest)
    | cons part others =>
      cases others with
      | nil => simp
      | cons => simp

instance (name : String) : Decidable (Overriding name) :=
  decidable_of_iff ((overridePath? name).isSome = true) <| by
    rw [Option.isSome_iff_exists]
    simp only [overridePath?_eq_some_iff, exists_and_left, exists_eq', and_true]

/-! ### The list of overrides -/

theorem overrideLe_iff {a b : String × String} : overrideLe a b = true ↔ InOrder a b := by
  simp [overrideLe, InOrder]

theorem InOrder.trans {a b c : String × String} (ab : InOrder a b) (bc : InOrder b c) : InOrder a c := by
  rcases ab with lower | ⟨same, value⟩ <;> rcases bc with lower' | ⟨same', value'⟩
  · exact .inl (lt_trans lower lower')
  · exact .inl (same' ▸ lower)
  · exact .inl (same ▸ lower')
  · exact .inr ⟨same.trans same', le_trans value value'⟩

theorem InOrder.total (a b : String × String) : InOrder a b ∨ InOrder b a := by
  rcases lt_trichotomy a.1 b.1 with lower | same | higher
  · exact .inl (.inl lower)
  · rcases le_total a.2 b.2 with value | value
    · exact .inl (.inr ⟨same, value⟩)
    · exact .inr (.inr ⟨same.symm, value⟩)
  · exact .inr (.inl higher)

theorem InOrder.antisymm {a b : String × String} (ab : InOrder a b) (ba : InOrder b a) : a = b := by
  rcases ab with lower | ⟨same, value⟩ <;> rcases ba with lower' | ⟨same', value'⟩
  · exact absurd (lt_trans lower lower') (lt_irrefl _)
  · exact absurd same' lower.ne'
  · exact absurd same lower'.ne'
  · exact Prod.ext same (le_antisymm value value')

def override? (entry : String × String) : Option (String × String) :=
  (overridePath? entry.1).map fun path => (path, entry.2)

theorem overrides_eq (env : List (String × String)) :
    overrides env = (env.filterMap override?).mergeSort overrideLe := rfl

theorem overrideLe_trans (a b c : String × String) (ab : overrideLe a b = true)
    (bc : overrideLe b c = true) : overrideLe a c = true := by
  rw [overrideLe_iff] at ab bc ⊢
  exact ab.trans bc

theorem overrideLe_total (a b : String × String) : (overrideLe a b || overrideLe b a) = true := by
  rw [Bool.or_eq_true, overrideLe_iff, overrideLe_iff]
  exact InOrder.total a b

section
variable {env env' : List (String × String)}

theorem overrides_sorted (env : List (String × String)) : (overrides env).Pairwise InOrder := by
  have sorted := List.pairwise_mergeSort overrideLe_trans overrideLe_total (env.filterMap override?)
  exact sorted.imp overrideLe_iff.mp

theorem overrides_perm (env : List (String × String)) :
    (overrides env).Perm (env.filterMap override?) :=
  List.mergeSort_perm _ _

theorem overrides_of_perm (reordered : env.Perm env') : overrides env = overrides env' := by
  apply List.Perm.eq_of_pairwise (fun a b _ _ ab ba => InOrder.antisymm ab ba) (overrides_sorted env)
    (overrides_sorted env')
  exact (overrides_perm env).trans ((reordered.filterMap _).trans (overrides_perm env').symm)

/-- One override for each variable that is meant. -/
theorem filterMap_override? (env : List (String × String)) :
    env.filterMap override? =
      (env.filter fun entry => Overriding entry.1).map fun entry => (settingKey entry.1, entry.2) := by
  induction env with
  | nil => rfl
  | cons entry rest ih =>
    by_cases meant : Overriding entry.1
    · have path := overridePath?_eq_some_iff.mpr ⟨meant, rfl⟩
      simp [override?, path, meant, ih]
    · have path : overridePath? entry.1 = none := by
        rw [Option.eq_none_iff_forall_ne_some]
        intro key known
        exact meant (overridePath?_eq_some_iff.mp known).1
      simp [override?, path, meant, ih]

end

/-! ### Loading -/

def applyChanges (root : Setting) (changes : List (Path × String)) : Setting :=
  changes.foldl (fun root (path, value) => Setting.write (.text value) path root) root

/-- A configuration depends on no more than the settings that its overrides lead to. -/
theorem load_congr {env env' : List (String × String)}
    (alike : ∀ root, (overridePaths env).map (applyChanges root) =
      (overridePaths env').map (applyChanges root)) (path : String) (text : Option String) :
    load path text env = load path text env' := by
  have root := alike (.table [])
  unfold load
  cases known : overridePaths env with
  | error e =>
    cases known' : overridePaths env' with
    | error e' =>
      rw [known, known'] at root
      cases root
      rfl
    | ok changes' =>
      rw [known, known'] at root
      cases root
  | ok changes =>
    cases known' : overridePaths env' with
    | error e' =>
      rw [known, known'] at root
      cases root
    | ok changes' =>
      have same : ∀ root, applyChanges root changes = applyChanges root changes' := by
        intro root
        have own := alike root
        rw [known, known'] at own
        exact Except.ok.inj own
      unfold applyChanges at same
      simp only [bind, Except.bind, same]

def change (entry : String × String) : Except Failure (Path × String) :=
  match Path.parse? entry.1 with
  | some path => .ok (path, entry.2)
  | none => .error ((Failure.ofText "invalid path").within ("Invalid override for " ++ entry.1))

theorem overridePaths_eq (env : List (String × String)) :
    overridePaths env = (overrides env).mapM change := rfl

/-- Of two overrides with one key that follow each other the first one counts for nothing. -/
theorem applyChanges_outdone (front back : List (String × String)) (key value later : String)
    (root : Setting) :
    ((front ++ (key, value) :: (key, later) :: back).mapM change).map (applyChanges root) =
      ((front ++ (key, later) :: back).mapM change).map (applyChanges root) := by
  rw [List.mapM_append, List.mapM_append, List.mapM_cons, List.mapM_cons]
  cases front.mapM change with
  | error e => rfl
  | ok before =>
    cases parsed : Path.parse? key with
    | none =>
      simp only [change, parsed]
      rfl
    | some path =>
      cases back.mapM change with
      | error e =>
        simp only [change, parsed]
        rfl
      | ok after =>
        simp only [change, parsed]
        show Except.ok (applyChanges root (before ++ (path, value) :: (path, later) :: after)) =
          Except.ok (applyChanges root (before ++ (path, later) :: after))
        simp only [applyChanges, List.foldl_append, List.foldl_cons, Setting.write_write]

/-- Of two variables with one key the one with the smaller value stands right before one with that key. -/
theorem overrides_cons_of_outdone {a b : String × String} {env : List (String × String)} {key : String}
    (spells : overridePath? a.1 = some key) (spells' : overridePath? b.1 = some key)
    (less : a.2 ≤ b.2) :
    ∃ front back later, overrides (a :: b :: env) = front ++ (key, a.2) :: (key, later) :: back ∧
      overrides (b :: env) = front ++ (key, later) :: back := by
  have own : override? a = some (key, a.2) := by rw [override?, spells, Option.map_some]
  have own' : override? b = some (key, b.2) := by rw [override?, spells', Option.map_some]
  obtain ⟨front, behind, whole, others, before⟩ :=
    List.mergeSort_cons overrideLe_trans overrideLe_total (key, a.2) ((b :: env).filterMap override?)
  rw [← overrides_eq] at others
  have all : overrides (a :: b :: env) = front ++ (key, a.2) :: behind := by
    rw [overrides_eq, List.filterMap_cons_some own, whole]
  have sorted := overrides_sorted (a :: b :: env)
  rw [all, List.pairwise_append, List.pairwise_cons] at sorted
  obtain ⟨-, ⟨following, ordered⟩, -⟩ := sorted
  have member : (key, b.2) ∈ front ++ behind := by
    rw [← others, (overrides_perm _).mem_iff, List.filterMap_cons_some own']
    exact List.mem_cons_self
  have inOrder : overrideLe (key, a.2) (key, b.2) = true := overrideLe_iff.mpr (.inr ⟨rfl, less⟩)
  have inside : (key, b.2) ∈ behind := by
    refine (List.mem_append.mp member).resolve_left fun early => ?_
    have refused := before _ early
    rw [inOrder] at refused
    cases refused
  cases behind with
  | nil => cases inside
  | cons next back =>
    obtain ⟨nextKey, later⟩ := next
    -- What stands between the two has their key.
    have atLeast : InOrder (key, a.2) (nextKey, later) := following _ List.mem_cons_self
    have atMost : InOrder (nextKey, later) (key, b.2) := by
      rcases List.mem_cons.mp inside with same | further
      · exact .inr ⟨congrArg Prod.fst same.symm, (congrArg Prod.snd same).ge⟩
      · exact (List.pairwise_cons.mp ordered).1 _ further
    have same : nextKey = key := by
      rcases atLeast with lower | ⟨same, -⟩
      · rcases atMost with lower' | ⟨same', -⟩
        · exact absurd (lt_trans lower lower') (lt_irrefl _)
        · exact same'
      · exact same.symm
    subst same
    exact ⟨front, back, later, all, others⟩

theorem load_outdone {a b : String × String} {env : List (String × String)} {key : String}
    (spells : overridePath? a.1 = some key) (spells' : overridePath? b.1 = some key)
    (less : a.2 ≤ b.2) (path : String) (text : Option String) :
    load path text (a :: b :: env) = load path text (b :: env) := by
  apply load_congr
  intro root
  obtain ⟨front, back, later, whole, others⟩ := overrides_cons_of_outdone spells spells' less
  rw [overridePaths_eq, overridePaths_eq, whole, others]
  exact applyChanges_outdone front back key a.2 later root

end TaxLedger.Config
