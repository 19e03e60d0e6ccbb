import Mathlib.Data.List.Permutation
import TaxLedger.Denom.Catalog
import TaxLedger.Denom.Rows
import TaxLedger.Proofs.Bytes.Order

/-!
The asset that a catalog has under a base: the last one with that base in the list of the greatest directory
name whose list has one. Names are compared by their bytes, so that the order in which a directory is listed
does not matter, and a list that is not there or does not count changes nothing (`read_settled`).
-/

namespace TaxLedger

namespace Assoc
variable {α : Type} {entries entries' : Assoc α} {name : String} {value : α}

def Sorted (entries : Assoc α) : Prop := entries.Pairwise fun e f => e.1 < f.1

theorem mem_insert {e : String × α} (member : e ∈ insert name value entries) :
    e = (name, value) ∨ e ∈ entries := by
  induction entries with
  | nil => exact .inl (List.mem_singleton.mp member)
  | cons first rest ih =>
    obtain ⟨k, v⟩ := first
    unfold insert at member
    split at member
    · rcases List.mem_cons.mp member with same | inside
      · exact .inl same
      · exact .inr (List.mem_cons_of_mem _ inside)
    split at member
    · exact List.mem_cons.mp member
    · rcases List.mem_cons.mp member with rfl | inside
      · exact .inr List.mem_cons_self
      · exact (ih inside).imp id (List.mem_cons_of_mem _)

theorem Sorted.insert (name : String) (value : α) (sorted : Sorted entries) :
    Sorted (Assoc.insert name value entries) := by
  induction entries with
  | nil => exact List.pairwise_singleton _ _
  | cons first rest ih =>
    obtain ⟨k, v⟩ := first
    obtain ⟨above, later⟩ := List.pairwise_cons.mp sorted
    unfold Assoc.insert
    split
    · rename_i same
      subst same
      exact List.pairwise_cons.mpr ⟨above, later⟩
    split
    · rename_i below
      refine List.pairwise_cons.mpr ⟨?_, sorted⟩
      intro e member
      rcases List.mem_cons.mp member with rfl | inside
      · exact below
      · exact lt_trans below (above e inside)
    · rename_i other notBelow
      refine List.pairwise_cons.mpr ⟨?_, ih later⟩
      intro e member
      rcases mem_insert member with rfl | inside
      · exact lt_of_le_of_ne (not_lt.mp notBelow) (Ne.symm other)
      · exact above e inside

theorem Sorted.mem_iff (sorted : Sorted entries) :
    (name, value) ∈ entries ↔ entries.find? name = some value := by
  induction entries with
  | nil => simp
  | cons first rest ih =>
    obtain ⟨k, v⟩ := first
    obtain ⟨above, later⟩ := List.pairwise_cons.mp sorted
    rw [find?_cons, List.mem_cons, ih later]
    split
    · rename_i same
      subst same
      have absent : find? name rest ≠ some value := by
        intro found
        exact lt_irrefl name (above _ ((ih later).mpr found))
      simp [absent, eq_comm]
    · rename_i other
      simp [other]

/-- Sorted entries with the same look-ups are the same entries. -/
theorem Sorted.ext (sorted : Sorted entries) (sorted' : Sorted entries')
    (same : ∀ name, entries.find? name = entries'.find? name) : entries = entries' := by
  have distinct {l : Assoc α} (ordered : Sorted l) : l.Nodup := by
    apply List.Pairwise.imp _ ordered
    rintro e f below rfl
    exact lt_irrefl _ below
  have reordered : entries.Perm entries' := by
    rw [List.perm_ext_iff_of_nodup (distinct sorted) (distinct sorted')]
    rintro ⟨name, value⟩
    rw [sorted.mem_iff, sorted'.mem_iff, same]
  refine reordered.eq_of_pairwise ?_ sorted sorted'
  intro e f _ _ below above
  exact absurd above (lt_asymm below)

end Assoc

namespace Denom

/-! ### Assets of a list -/

/-- The last asset with that base, under the name of the chain. -/
def AssetList.Last (l : AssetList) (base : String) (asset : Asset) : Prop :=
  ∃ front a later, l.assets = front ++ a :: later ∧ a.base = base ∧ (∀ b ∈ later, b.base ≠ base) ∧
    asset = { a with chainName := l.chainName }

namespace AssetList
variable {l : AssetList} {base : String} {asset : Asset}

theorem findLast?_named : findLast? (·.base == base) l.named = some asset ↔ l.Last base asset := by
  unfold findLast? named Last
  rw [← List.map_reverse, List.find?_map, Option.map_eq_some_iff]
  constructor
  · rintro ⟨a, found, rfl⟩
    obtain ⟨based, later, front, split, none⟩ := List.find?_eq_some_iff_append.mp found
    refine ⟨front.reverse, a, later.reverse, ?_, eq_of_beq based, ?_, rfl⟩
    · rw [List.reverse_eq_iff.mp split]
      simp
    · intro b member
      simpa using none b (List.mem_reverse.mp member)
  · rintro ⟨front, a, later, split, based, none, rfl⟩
    refine ⟨a, List.find?_eq_some_iff_append.mpr ?_, rfl⟩
    refine ⟨beq_iff_eq.mpr based, later.reverse, front.reverse, ?_, ?_⟩
    · simp [split]
    · intro b member
      simpa using none b (List.mem_reverse.mp member)

theorem exists_last : (∃ asset, l.Last base asset) ↔ ∃ a ∈ l.assets, a.base = base := by
  constructor
  · rintro ⟨_, front, a, later, split, based, _⟩
    exact ⟨a, by simp [split], based⟩
  · rintro ⟨a, member, based⟩
    simp only [← findLast?_named, ← Option.isSome_iff_exists]
    unfold findLast?
    rw [List.find?_isSome]
    exact ⟨_, List.mem_reverse.mpr (List.mem_map_of_mem member), beq_iff_eq.mpr based⟩

end AssetList

namespace Catalog
variable {blacklist : List String} {entries : List (String × FileTree)} {name base : String}
  {chain : List (String × FileTree)} {list : AssetList} {asset : Asset}

/-! ### What a scan of directories keeps -/

theorem sorted_addAll {c : Catalog} (sorted : Assoc.Sorted c) (assets : List Asset) :
    Assoc.Sorted (c.addAll assets) := by
  unfold addAll
  induction assets generalizing c with
  | nil => exact sorted
  | cons a rest ih => exact ih (sorted.insert a.base a)

theorem find?_addAll (c : Catalog) (assets : List Asset) (base : String) :
    (c.addAll assets).find? base = (findLast? (·.base == base) assets).or (c.find? base) := by
  unfold addAll
  induction assets generalizing c with
  | nil => rfl
  | cons a rest ih =>
    rw [List.foldl_cons, ih, Assoc.find?_insert]
    unfold findLast?
    rw [List.reverse_cons, List.find?_append, Option.or_assoc]
    congr 1
    by_cases same : base = a.base
    · simp [same]
    · simp [same, Ne.symm same]

theorem ofDirectory_eq (blacklist : List String) (entries : List (String × FileTree)) :
    ofDirectory blacklist entries =
      ofAssets ((chainDirectories blacklist entries).flatMap fun d => chainAssets d.2) := by
  unfold ofDirectory ofAssets addAll
  exact List.foldl_flatMap.symm

theorem sorted_ofDirectory (blacklist : List String) (entries : List (String × FileTree)) :
    Assoc.Sorted (ofDirectory blacklist entries) := by
  rw [ofDirectory_eq]
  exact sorted_addAll List.Pairwise.nil _

theorem find?_ofDirectory (blacklist : List String) (entries : List (String × FileTree)) (base : String) :
    (ofDirectory blacklist entries).find? base =
      (chainDirectories blacklist entries).reverse.findSome? fun d =>
        findLast? (·.base == base) (chainAssets d.2) := by
  rw [ofDirectory_eq, ofAssets, find?_addAll, Assoc.find?_nil, Option.or_none, findLast?,
    List.reverse_flatMap, List.find?_flatMap]
  rfl

/-! ### Directories that count -/

theorem startsWith_singleton_iff (c : Char) :
    name.startsWith (String.singleton c) = true ↔ name.toList.head? = some c := by
  rw [String.startsWith_string_iff, String.toList_singleton]
  cases name.toList with
  | nil => simp
  | cons first rest => simp [eq_comm]

theorem isSkipped_eq_false_iff : isSkipped blacklist name = false ↔
    name ∉ blacklist ∧ name.toList.head? ≠ some '.' ∧ name.toList.head? ≠ some '_' := by
  have hidden : name.startsWith "." = true ↔ name.toList.head? = some '.' := startsWith_singleton_iff '.'
  have own : name.startsWith "_" = true ↔ name.toList.head? = some '_' := startsWith_singleton_iff '_'
  unfold isSkipped
  rw [Bool.or_eq_false_iff, Bool.or_eq_false_iff, Ne, Ne, ← hidden, ← own, Bool.not_eq_true,
    Bool.not_eq_true, List.contains_eq_mem, decide_eq_false_iff_not]
  exact and_comm

/-- The chain of an entry, if the entry is a directory that is not left out. -/
def chainOf? (blacklist : List String) : String × FileTree → Option (String × List (String × FileTree))
  | (name, .directory chain) => if isSkipped blacklist name then none else some (name, chain)
  | (_, .file _) => none

theorem chainOf?_eq_some_iff {entry : String × FileTree} {d : String × List (String × FileTree)} :
    chainOf? blacklist entry = some d ↔
      entry = (d.1, .directory d.2) ∧ isSkipped blacklist d.1 = false := by
  obtain ⟨name, tree⟩ := entry
  obtain ⟨name', chain⟩ := d
  cases tree with
  | file text => simp [chainOf?]
  | directory held =>
    show (if isSkipped blacklist name then none else some (name, held)) = some (name', chain) ↔ _
    by_cases skipped : isSkipped blacklist name = true
    · rw [if_pos skipped]
      constructor
      · intro kept
        cases kept
      · rintro ⟨same, shown⟩
        cases same
        exact absurd (skipped.symm.trans shown) (by decide)
    · rw [if_neg skipped]
      constructor
      · intro kept
        cases kept
        exact ⟨rfl, eq_false_of_ne_true skipped⟩
      · rintro ⟨same, _⟩
        cases same
        rfl

theorem chainDirectories_eq (blacklist : List String) (entries : List (String × FileTree)) :
    chainDirectories blacklist entries =
      (entries.filterMap (chainOf? blacklist)).mergeSort fun a b => decide (a.1 ≤ b.1) := by
  unfold chainDirectories
  congr 2
  funext ⟨name, tree⟩
  cases tree <;> rfl

theorem mem_chainDirectories : (name, chain) ∈ chainDirectories blacklist entries ↔
    (name, .directory chain) ∈ entries ∧ isSkipped blacklist name = false := by
  simp only [chainDirectories_eq, List.mem_mergeSort, List.mem_filterMap, chainOf?_eq_some_iff]
  constructor
  · rintro ⟨entry, member, rfl, shown⟩
    exact ⟨member, shown⟩
  · rintro ⟨member, shown⟩
    exact ⟨_, member, rfl, shown⟩

theorem sorted_chainDirectories (distinct : (entries.map Prod.fst).Nodup) :
    (chainDirectories blacklist entries).Pairwise fun d e => d.1 < e.1 := by
  rw [chainDirectories_eq]
  have ordered := @List.pairwise_mergeSort _ (fun a b => decide (a.1 ≤ b.1))
    (by simpa only [decide_eq_true_eq] using fun _ _ _ => le_trans)
    (by simpa only [Bool.or_eq_true, decide_eq_true_eq] using fun _ _ => le_total _ _)
    (entries.filterMap (chainOf? blacklist))
  have apart : (entries.filterMap (chainOf? blacklist)).Pairwise fun d e => d.1 ≠ e.1 := by
    rw [List.pairwise_filterMap]
    apply (List.pairwise_map.mp distinct).imp
    intro entry entry' differ d kept d' kept'
    obtain ⟨rfl, _⟩ := chainOf?_eq_some_iff.mp kept
    obtain ⟨rfl, _⟩ := chainOf?_eq_some_iff.mp kept'
    exact differ
  have apart' := ((List.mergeSort_perm _ fun a b => decide (a.1 ≤ b.1)).pairwise_iff Ne.symm).mpr apart
  exact ordered.imp₂ (fun _ _ before => lt_of_le_of_ne (of_decide_eq_true before)) apart'

/-! ### Which list decides -/

def listOf? (chain : List (String × FileTree)) : Option AssetList :=
  match chain.lookup listFile with
  | some (.file text) => (Json.parse? text).bind AssetList.ofJson?
  | _ => none

theorem listOf?_cons (text : String) (others : List (String × FileTree)) :
    listOf? ((listFile, .file text) :: others) = (Json.parse? text).bind AssetList.ofJson? := by
  unfold listOf?
  rw [List.lookup_cons_self]

theorem findLast?_chainAssets : findLast? (·.base == base) (chainAssets chain) = some asset ↔
    ∃ list, listOf? chain = some list ∧ list.Last base asset := by
  have read : chainAssets chain = ((listOf? chain).map AssetList.named).getD [] := by
    unfold chainAssets listOf?
    cases chain.lookup listFile with
    | none => rfl
    | some tree =>
      cases tree with
      | directory held => rfl
      | file text => cases read : (Json.parse? text).bind AssetList.ofJson? <;> simp [read]
  rw [read]
  cases listOf? chain with
  | none => simp [findLast?]
  | some list => simp [AssetList.findLast?_named]

/-- A directory of that name counts and has a well-formed list. -/
structure Offers (blacklist : List String) (entries : List (String × FileTree)) (name : String)
    (list : AssetList) : Prop where
  allowed : name ∉ blacklist
  shown : name.toList.head? ≠ some '.' ∧ name.toList.head? ≠ some '_'
  held : ∃ chain, (name, .directory chain) ∈ entries ∧ listOf? chain = some list

theorem offers_iff : Offers blacklist entries name list ↔
    ∃ chain, (name, chain) ∈ chainDirectories blacklist entries ∧ listOf? chain = some list := by
  simp only [mem_chainDirectories, isSkipped_eq_false_iff]
  constructor
  · rintro ⟨allowed, shown, chain, member, read⟩
    exact ⟨chain, ⟨member, allowed, shown⟩, read⟩
  · rintro ⟨chain, ⟨member, allowed, shown⟩, read⟩
    exact ⟨allowed, shown, chain, member, read⟩

/-- The list of a directory gives the asset of a base, and no directory of a greater name has one. -/
structure Decides (offers : String → AssetList → Prop) (name : String) (list : AssetList) (base : String)
    (asset : Asset) : Prop where
  offered : offers name list
  last : list.Last base asset
  greatest : ∀ other list', offers other list' → (∃ a ∈ list'.assets, a.base = base) →
    Utf8.encode other ≤ Utf8.encode name

theorem find?_ofDirectory_iff (distinct : (entries.map Prod.fst).Nodup) :
    (ofDirectory blacklist entries).find? base = some asset ↔
      ∃ name list, Decides (Offers blacklist entries) name list base asset := by
  have sorted := List.pairwise_reverse.mpr (@sorted_chainDirectories blacklist entries distinct)
  rw [find?_ofDirectory, List.findSome?_eq_some_iff]
  constructor
  · rintro ⟨later, ⟨name, chain⟩, front, split, found, none⟩
    obtain ⟨list, read, last⟩ := findLast?_chainAssets.mp found
    have member : (name, chain) ∈ (chainDirectories blacklist entries).reverse := by simp [split]
    refine ⟨name, list, offers_iff.mpr ⟨chain, List.mem_reverse.mp member, read⟩, last, ?_⟩
    intro other list' offered carried
    obtain ⟨chain', member', read'⟩ := offers_iff.mp offered
    rw [split, List.pairwise_append, List.pairwise_cons] at sorted
    rw [← List.mem_reverse, split, List.mem_append, List.mem_cons] at member'
    rw [Utf8.encode_le_iff]
    rcases member' with above | same | below
    · obtain ⟨asset', last'⟩ := AssetList.exists_last.mpr carried
      have missed := none _ above
      rw [findLast?_chainAssets.mpr ⟨list', read', last'⟩] at missed
      cases missed
    · cases same
      exact le_refl _
    · exact le_of_lt (sorted.2.1.1 _ below)
  · rintro ⟨name, list, offered, last, greatest⟩
    obtain ⟨chain, member, read⟩ := offers_iff.mp offered
    obtain ⟨later, front, split⟩ := List.append_of_mem (List.mem_reverse.mpr member)
    refine ⟨later, (name, chain), front, split, findLast?_chainAssets.mpr ⟨list, read, last⟩, ?_⟩
    rintro ⟨other, chain'⟩ above
    rw [Option.eq_none_iff_forall_ne_some]
    intro asset' found
    obtain ⟨list', read', last'⟩ := findLast?_chainAssets.mp found
    have member' : (other, chain') ∈ (chainDirectories blacklist entries).reverse := by simp [split, above]
    have low := greatest other list' (offers_iff.mpr ⟨chain', List.mem_reverse.mp member', read'⟩)
      (AssetList.exists_last.mp ⟨asset', last'⟩)
    rw [split, List.pairwise_append] at sorted
    exact absurd (sorted.2.2 _ above _ List.mem_cons_self) (not_lt.mpr (Utf8.encode_le_iff.mp low))

variable {blacklist' : List String} {entries' : List (String × FileTree)}

/-- The catalog is settled by the lists that are offered. -/
theorem ofDirectory_congr (distinct : (entries.map Prod.fst).Nodup) (distinct' : (entries'.map Prod.fst).Nodup)
    (same : Offers blacklist' entries' = Offers blacklist entries) :
    ofDirectory blacklist' entries' = ofDirectory blacklist entries := by
  apply Assoc.Sorted.ext (sorted_ofDirectory _ _) (sorted_ofDirectory _ _)
  intro base
  apply Option.ext
  intro asset
  rw [find?_ofDirectory_iff distinct, find?_ofDirectory_iff distinct', same]

theorem Offers.of_perm (reordered : entries'.Perm entries) :
    Offers blacklist entries' = Offers blacklist entries := by
  funext name list
  apply propext
  constructor
  · rintro ⟨allowed, shown, chain, member, read⟩
    exact ⟨allowed, shown, chain, reordered.mem_iff.mp member, read⟩
  · rintro ⟨allowed, shown, chain, member, read⟩
    exact ⟨allowed, shown, chain, reordered.mem_iff.mpr member, read⟩

theorem decides_without {offers offers' : String → AssetList → Prop}
    (others : ∀ other list, other ≠ name → (offers' other list ↔ offers other list))
    (gone : ∀ list, ¬offers' name list) (own : ∀ list asset, ¬Decides offers name list base asset) :
    (∃ other list, Decides offers' other list base asset) ↔
      ∃ other list, Decides offers other list base asset := by
  constructor
  · rintro ⟨other, list, offered, last, greatest⟩
    have apart : other ≠ name := by
      rintro rfl
      exact gone list offered
    refine ⟨other, list, (others other list apart).mp offered, last, ?_⟩
    intro third list' offered' carried
    by_cases same : third = name
    · subst same
      obtain ⟨asset', last'⟩ := AssetList.exists_last.mpr carried
      -- It has the base: were it the greatest that has it, it would decide the base.
      rw [Utf8.encode_le_iff]
      by_contra below
      apply own list' asset' ⟨offered', last', ?_⟩
      intro fourth list'' offered'' carried'
      rw [Utf8.encode_le_iff]
      by_cases same : fourth = third
      · rw [same]
      · have low := greatest fourth list'' ((others fourth list'' same).mpr offered'') carried'
        exact le_trans (Utf8.encode_le_iff.mp low) (le_of_not_ge below)
    · exact greatest third list' ((others third list' same).mpr offered') carried
  · rintro ⟨other, list, offered, last, greatest⟩
    have apart : other ≠ name := by
      rintro rfl
      exact own list asset ⟨offered, last, greatest⟩
    refine ⟨other, list, (others other list apart).mpr offered, last, ?_⟩
    intro third list' offered' carried
    have apart' : third ≠ name := by
      rintro rfl
      exact gone list' offered'
    exact greatest third list' ((others third list' apart').mp offered') carried

theorem read_listed {tree : FileTree} {path : List String} (blacklist : List String)
    (listing : tree.readDirectory path = .ok entries) :
    read tree path blacklist = .ok (ofDirectory blacklist entries) := by
  unfold read
  rw [listing]
  rfl

/-- A directory has its names once each. Its catalog is there, and each base is settled by the greatest name
that offers it, in whichever order the names are listed. A name that offers nothing any more changes no base
that it did not decide. -/
theorem read_settled {tree : FileTree} {path : List String} (blacklist : List String)
    (listing : tree.readDirectory path = .ok entries) (distinct : (entries.map Prod.fst).Nodup) :
    ∃ catalog, read tree path blacklist = .ok catalog ∧
      (∀ base asset, catalog.find? base = some asset ↔
        ∃ name list, Decides (Offers blacklist entries) name list base asset) ∧
      (∀ tree' path' entries', tree'.readDirectory path' = .ok entries' → entries'.Perm entries →
        read tree' path' blacklist = .ok catalog) ∧
      ∀ name tree' path' blacklist' entries', tree'.readDirectory path' = .ok entries' →
        (entries'.map Prod.fst).Nodup →
        (∀ other list, other ≠ name →
          (Offers blacklist' entries' other list ↔ Offers blacklist entries other list)) →
        (∀ list, ¬Offers blacklist' entries' name list) →
        ∃ catalog', read tree' path' blacklist' = .ok catalog' ∧
          ∀ base, (∀ list asset, ¬Decides (Offers blacklist entries) name list base asset) →
            catalog'.find? base = catalog.find? base := by
  refine ⟨_, read_listed blacklist listing, fun base asset => find?_ofDirectory_iff distinct, ?_, ?_⟩
  · intro tree' path' entries' listing' reordered
    have distinct' := (reordered.map Prod.fst).nodup_iff.mpr distinct
    rw [read_listed blacklist listing', ofDirectory_congr distinct distinct' (Offers.of_perm reordered)]
  · intro name tree' path' blacklist' entries' listing' distinct' others gone
    refine ⟨_, read_listed blacklist' listing', ?_⟩
    intro base own
    apply Option.ext
    intro asset
    rw [find?_ofDirectory_iff distinct, find?_ofDirectory_iff distinct']
    exact decides_without others gone own

/-- Two chains with one base, and one with half a list. -/
def shared : List (String × FileTree) := [
  ("zeta", .directory [(listFile,
    .file "\x7b\"chain_name\":\"z\",\"assets\":[\x7b\"base\":\"uatom\"\x7d]\x7d")]),
  ("zz", .directory [(listFile, .file "[")]),
  ("alpha", .directory [(listFile,
    .file "\x7b\"chain_name\":\"a\",\"assets\":[\x7b\"base\":\"uatom\"\x7d]\x7d")])]

theorem read_settled_of_shared : (FileTree.directory shared).readDirectory [] = .ok shared ∧
    (shared.map Prod.fst).Nodup ∧
    ∃ catalog, read (.directory shared) [] [] = .ok catalog ∧
      catalog.find? "uatom" = some { base := "uatom", chainName := "z" } ∧
      read (.directory shared.reverse) [] [] = .ok catalog := by
  have distinct : (shared.map Prod.fst).Nodup := by decide
  obtain ⟨catalog, run, settled, turned, _⟩ := @read_settled shared (.directory shared) [] [] rfl distinct
  refine ⟨rfl, distinct, catalog, run, (settled _ _).mpr ?_, ?_⟩
  · have read : listOf? [(listFile,
        .file "\x7b\"chain_name\":\"z\",\"assets\":[\x7b\"base\":\"uatom\"\x7d]\x7d")] =
          some ⟨"z", [{ base := "uatom" }]⟩ := by
      rw [listOf?_cons]
      cbv
    have half : listOf? [(listFile, .file "[")] = none := by
      rw [listOf?_cons]
      cbv
    refine ⟨"zeta", ⟨"z", [{ base := "uatom" }]⟩, ?_, ?_, ?_⟩
    · exact ⟨List.not_mem_nil, ⟨by decide, by decide⟩, _, List.mem_cons_self, read⟩
    · exact ⟨[], { base := "uatom" }, [], rfl, rfl, by simp, rfl⟩
    · rintro other list' ⟨_, _, chain, member, read'⟩ _
      simp only [shared, List.mem_cons, List.not_mem_nil, Prod.mk.injEq, FileTree.directory.injEq,
        or_false] at member
      rw [Utf8.encode_le_iff]
      rcases member with ⟨rfl, rfl⟩ | ⟨rfl, rfl⟩ | ⟨rfl, rfl⟩
      · exact le_refl _
      · rw [half] at read'
        cases read'
      · decide
  · exact turned _ [] _ rfl (List.reverse_perm _)

end Catalog
end Denom
end TaxLedger
