import TaxLedger.Proofs.Address.Checksum

/-!
Bech32 texts and back. What is written for a readable part and bytes is read as that part in lower case and
those bytes (`decode?_encode`).
-/

namespace TaxLedger.Bech32

/-! ### Groups of five bits -/

theorem regroup_lt (acc bits : Nat) (bytes : List UInt8) : ∀ v ∈ regroup acc bits bytes, v < 32 := by
  have group (n : Nat) : n % 32 < 32 := Nat.mod_lt n (by decide)
  induction bytes generalizing acc bits with
  | nil =>
    unfold regroup
    split
    · nofun
    · exact List.forall_mem_singleton.mpr (group _)
  | cons b rest ih =>
    unfold regroup
    dsimp only
    split
    · exact List.forall_mem_cons.mpr ⟨group _, ih _ _⟩
    · exact List.forall_mem_cons.mpr ⟨group _, List.forall_mem_cons.mpr ⟨group _, ih _ _⟩⟩

theorem length_regroup (acc : Nat) {bits : Nat} (left : bits < 5) (bytes : List UInt8) :
    (regroup acc bits bytes).length = (bits + 8 * bytes.length + 4) / 5 := by
  induction bytes generalizing acc bits with
  | nil =>
    unfold regroup
    split
    · simp [*]
    · simp only [List.length_cons, List.length_nil]
      omega
  | cons b rest ih =>
    unfold regroup
    dsimp only
    split
    · rw [List.length_cons, ih _ (by omega), List.length_cons]
      omega
    · rw [List.length_cons, List.length_cons, ih _ (by omega), List.length_cons]
      omega

/-- A byte is under way: the reader holds the value `held` of its first bits, and `bits` bits of the value
`acc` are left over at the writer. -/
structure UnderWay (held acc bits : Nat) : Prop where
  few : bits < 5
  first : held < 2 ^ ((8 - bits) % 8)
  last : acc < 2 ^ bits

def pending (held acc bits : Nat) : List UInt8 :=
  if bits = 0 then [] else [UInt8.ofNat (held * 2 ^ bits + acc)]

/-- The last group has the rest of a byte in front of its zeros. -/
theorem ungroup_regroup_nil {held acc bits : Nat} (way : UnderWay held acc bits) :
    ungroup held ((8 - bits) % 8) (regroup acc bits []) = pending held acc bits := by
  obtain ⟨few, -, last⟩ := way
  match bits, few with
  | 0, _ => rfl
  | 1, _ =>
    have last : acc < 2 := last
    have byte : (held * 32 + acc * 16 % 32) / 16 = held * 2 + acc := by omega
    exact congrArg (fun n => [UInt8.ofNat n]) byte
  | 2, _ =>
    have last : acc < 4 := last
    have byte : (held * 32 + acc * 8 % 32) / 8 = held * 4 + acc := by omega
    exact congrArg (fun n => [UInt8.ofNat n]) byte
  | 3, _ =>
    have last : acc < 8 := last
    have byte : (held * 32 + acc * 4 % 32) / 4 = held * 8 + acc := by omega
    exact congrArg (fun n => [UInt8.ofNat n]) byte
  | 4, _ =>
    have last : acc < 16 := last
    have byte : (held * 32 + acc * 2 % 32) / 2 = held * 16 + acc := by omega
    exact congrArg (fun n => [UInt8.ofNat n]) byte

/-- One byte more: the byte under way is read, and the new one is read or under way. -/
theorem ungroup_regroup_cons {held acc bits : Nat} (way : UnderWay held acc bits) (b : UInt8)
    (rest : List UInt8) :
    ∃ held' acc' bits' done, UnderWay held' acc' bits' ∧
      done ++ pending held' acc' bits' = pending held acc bits ++ [b] ∧
      ungroup held ((8 - bits) % 8) (regroup acc bits (b :: rest)) =
        done ++ ungroup held' ((8 - bits') % 8) (regroup acc' bits' rest) := by
  obtain ⟨few, first, last⟩ := way
  have bound := b.toNat_lt
  obtain ⟨n, whole⟩ : ∃ n, n = acc * 256 + b.toNat := ⟨_, rfl⟩
  -- With fewer than two bits left over a byte fills one group, else two.
  match bits, few with
  | 0, _ =>
    have first : held < 1 := first
    have last : acc < 1 := last
    have byte : (held * 32 + n / 8 % 32) * 8 + n % 8 = b.toNat := by omega
    refine ⟨held * 32 + n / 8 % 32, n % 8, 3, [],
      ⟨by decide, show _ < 32 by omega, show _ < 8 by omega⟩, ?_, by rw [whole]; rfl⟩
    show [UInt8.ofNat ((held * 32 + n / 8 % 32) * 8 + n % 8)] = [b]
    rw [byte, UInt8.ofNat_toNat]
  | 1, _ =>
    have first : held < 128 := first
    have last : acc < 2 := last
    have before : (held * 32 + n / 16 % 32) / 16 = held * 2 + acc := by omega
    have byte : (held * 32 + n / 16 % 32) % 16 * 16 + n % 16 = b.toNat := by omega
    refine ⟨(held * 32 + n / 16 % 32) % 16, n % 16, 4, [UInt8.ofNat ((held * 32 + n / 16 % 32) / 16)],
      ⟨by decide, show _ < 16 by omega, show _ < 16 by omega⟩, ?_, by rw [whole]; rfl⟩
    show [UInt8.ofNat ((held * 32 + n / 16 % 32) / 16),
      UInt8.ofNat ((held * 32 + n / 16 % 32) % 16 * 16 + n % 16)] = [UInt8.ofNat (held * 2 + acc), b]
    rw [before, byte, UInt8.ofNat_toNat]
  | 2, _ =>
    have first : held < 64 := first
    have last : acc < 4 := last
    have before : (held * 32 + n / 32 % 32) / 8 = held * 4 + acc := by omega
    have byte : ((held * 32 + n / 32 % 32) % 8 * 32 + n / 1 % 32) / 1 = b.toNat := by omega
    refine ⟨((held * 32 + n / 32 % 32) % 8 * 32 + n / 1 % 32) % 1, n % 1, 0,
      [UInt8.ofNat ((held * 32 + n / 32 % 32) / 8),
        UInt8.ofNat (((held * 32 + n / 32 % 32) % 8 * 32 + n / 1 % 32) / 1)],
      ⟨by decide, show _ < 1 by omega, show _ < 1 by omega⟩, ?_, by rw [whole]; rfl⟩
    show [UInt8.ofNat ((held * 32 + n / 32 % 32) / 8),
      UInt8.ofNat (((held * 32 + n / 32 % 32) % 8 * 32 + n / 1 % 32) / 1)] =
        [UInt8.ofNat (held * 4 + acc), b]
    rw [before, byte, UInt8.ofNat_toNat]
  | 3, _ =>
    have first : held < 32 := first
    have last : acc < 8 := last
    have before : (held * 32 + n / 64 % 32) / 4 = held * 8 + acc := by omega
    have byte : ((held * 32 + n / 64 % 32) % 4 * 32 + n / 2 % 32) * 2 + n % 2 = b.toNat := by omega
    refine ⟨(held * 32 + n / 64 % 32) % 4 * 32 + n / 2 % 32, n % 2, 1,
      [UInt8.ofNat ((held * 32 + n / 64 % 32) / 4)],
      ⟨by decide, show _ < 128 by omega, show _ < 2 by omega⟩, ?_, by rw [whole]; rfl⟩
    show [UInt8.ofNat ((held * 32 + n / 64 % 32) / 4),
      UInt8.ofNat (((held * 32 + n / 64 % 32) % 4 * 32 + n / 2 % 32) * 2 + n % 2)] =
        [UInt8.ofNat (held * 8 + acc), b]
    rw [before, byte, UInt8.ofNat_toNat]
  | 4, _ =>
    have first : held < 16 := first
    have last : acc < 16 := last
    have before : (held * 32 + n / 128 % 32) / 2 = held * 16 + acc := by omega
    have byte : ((held * 32 + n / 128 % 32) % 2 * 32 + n / 4 % 32) * 4 + n % 4 = b.toNat := by omega
    refine ⟨(held * 32 + n / 128 % 32) % 2 * 32 + n / 4 % 32, n % 4, 2,
      [UInt8.ofNat ((held * 32 + n / 128 % 32) / 2)],
      ⟨by decide, show _ < 64 by omega, show _ < 4 by omega⟩, ?_, by rw [whole]; rfl⟩
    show [UInt8.ofNat ((held * 32 + n / 128 % 32) / 2),
      UInt8.ofNat (((held * 32 + n / 128 % 32) % 2 * 32 + n / 4 % 32) * 4 + n % 4)] =
        [UInt8.ofNat (held * 16 + acc), b]
    rw [before, byte, UInt8.ofNat_toNat]

theorem ungroup_regroup (bytes : List UInt8) {held acc bits : Nat} (way : UnderWay held acc bits) :
    ungroup held ((8 - bits) % 8) (regroup acc bits bytes) = pending held acc bits ++ bytes := by
  induction bytes generalizing held acc bits with
  | nil => rw [ungroup_regroup_nil way, List.append_nil]
  | cons b rest ih =>
    obtain ⟨held', acc', bits', done, next, same, read⟩ := ungroup_regroup_cons way b rest
    rw [read, ih next, ← List.append_assoc, same, List.append_assoc]
    rfl

theorem ofValues_toValues (bytes : List UInt8) : ofValues (toValues bytes) = bytes :=
  ungroup_regroup bytes (show UnderWay 0 0 0 from ⟨by decide, by decide, by decide⟩)

theorem toValues_lt (bytes : List UInt8) : ∀ v ∈ toValues bytes, v < 32 := regroup_lt 0 0 bytes

theorem length_toValues (bytes : List UInt8) :
    (toValues bytes).length = (8 * bytes.length + 4) / 5 := by
  rw [toValues, length_regroup 0 (by decide), Nat.zero_add]

/-! ### Symbols -/

theorem value?_symbol {v : Nat} (small : v < 32) : value? (symbol v) = some v := by
  revert v
  decide

/-- A symbol is neither the separator nor a capital. -/
theorem symbol_plain {v : Nat} (small : v < 32) : symbol v ≠ '1' ∧ isUpper (symbol v) = false := by
  revert v
  decide

theorem mapM_value?_symbol {values : List Nat} (small : ∀ v ∈ values, v < 32) :
    (values.map symbol).mapM value? = some values := by
  induction values with
  | nil => rfl
  | cons v rest ih =>
    obtain ⟨own, others⟩ := List.forall_mem_cons.mp small
    rw [List.map_cons, List.mapM_cons, value?_symbol own, ih others]
    rfl

/-! ### The separator -/

theorem splitSeparator?_eq_none {cs : List Char} (absent : '1' ∉ cs) : splitSeparator? cs = none := by
  induction cs with
  | nil => rfl
  | cons c rest ih =>
    obtain ⟨other, later⟩ := List.ne_and_not_mem_of_not_mem_cons absent
    rw [splitSeparator?, ih later]
    exact if_neg other.symm

/-- The last separator counts, whatever stands before it. -/
theorem splitSeparator?_append {data : List Char} (absent : '1' ∉ data) (front : List Char) :
    splitSeparator? (front ++ '1' :: data) = some (front, data) := by
  induction front with
  | nil =>
    rw [List.nil_append, splitSeparator?, splitSeparator?_eq_none absent]
    rfl
  | cons c front ih => rw [List.cons_append, splitSeparator?, ih]

/-! ### The readable part -/

theorem isReadablePart_iff {cs : List Char} :
    isReadablePart cs = true ↔ cs ≠ [] ∧ cs.length ≤ 83 ∧
      (∀ c ∈ cs, 33 ≤ c.toNat ∧ c.toNat ≤ 126) ∧ isMixedCase cs = false := by
  simp [isReadablePart, and_assoc]

theorem toLower_visible {c : Char} (visible : 33 ≤ c.toNat ∧ c.toNat ≤ 126) :
    33 ≤ c.toLower.toNat ∧ c.toLower.toNat ≤ 126 ∧ isUpper c.toLower = false ∧
      c.toLower.toLower = c.toLower := by
  have all : ∀ n < 127, 33 ≤ n →
      33 ≤ (Char.ofNat n).toLower.toNat ∧ (Char.ofNat n).toLower.toNat ≤ 126 ∧
        isUpper (Char.ofNat n).toLower = false ∧
        (Char.ofNat n).toLower.toLower = (Char.ofNat n).toLower := by
    decide +kernel
  have own := all c.toNat (by omega) visible.1
  rwa [Char.ofNat_toNat] at own

section
variable {readable : List Char}

theorem isUpper_lower (visible : ∀ c ∈ readable, 33 ≤ c.toNat ∧ c.toNat ≤ 126) :
    ∀ c ∈ readable.map Char.toLower, isUpper c = false :=
  List.forall_mem_map.mpr fun c member => (toLower_visible (visible c member)).2.2.1

theorem isMixedCase_of_isUpper {cs : List Char} (small : ∀ c ∈ cs, isUpper c = false) :
    isMixedCase cs = false := by
  have none : cs.any isUpper = false := by simpa using small
  rw [isMixedCase, none, Bool.false_and]

theorem isReadablePart_lower (valid : isReadablePart readable = true) :
    isReadablePart (readable.map Char.toLower) = true := by
  obtain ⟨filled, short, visible, _⟩ := isReadablePart_iff.mp valid
  have visible' : ∀ c ∈ readable.map Char.toLower, 33 ≤ c.toNat ∧ c.toNat ≤ 126 := by
    rw [List.forall_mem_map]
    intro c member
    have own := toLower_visible (visible c member)
    exact ⟨own.1, own.2.1⟩
  exact isReadablePart_iff.mpr ⟨by simpa using filled, by simpa using short, visible',
    isMixedCase_of_isUpper (isUpper_lower visible)⟩

theorem lower_lower (valid : isReadablePart readable = true) :
    (readable.map Char.toLower).map Char.toLower = readable.map Char.toLower := by
  obtain ⟨_, _, visible, _⟩ := isReadablePart_iff.mp valid
  rw [List.map_map]
  apply List.map_congr_left
  intro c member
  exact (toLower_visible (visible c member)).2.2.2

theorem expandPrefix_lt (valid : isReadablePart readable = true) :
    ∀ v ∈ expandPrefix readable, v < 32 := by
  obtain ⟨_, _, visible, _⟩ := isReadablePart_iff.mp valid
  simp only [expandPrefix, List.forall_mem_append, List.forall_mem_cons, List.forall_mem_map]
  refine ⟨?_, by decide, ?_⟩
  · intro c member
    have own := toLower_visible (visible c member)
    omega
  · intro c _
    omega

end

/-! ### Whole texts -/

section
variable {readable : List Char} {bytes : List UInt8} {text : String}

theorem encode?_eq_some_iff :
    encode? readable bytes = some text ↔
      readable.length + 1 + (toValues bytes).length + 6 ≤ maxLength ∧
        text.toList = readable.map Char.toLower ++ '1' :: (toValues bytes ++
          checksum .bech32 (readable.map Char.toLower) (toValues bytes)).map symbol := by
  unfold encode?
  dsimp only
  rw [List.length_map]
  split
  · exact ⟨nofun, fun written => by omega⟩
  · rw [Option.some.injEq, ← String.toList_inj, String.toList_ofList, eq_comm]
    exact ⟨fun same => ⟨by omega, same⟩, And.right⟩

/-- A text without capitals is read as the part before its last separator and the values behind it. -/
theorem decode?_of_verified {values : List Nat} (valid : isReadablePart readable = true)
    (lower : ∀ c ∈ readable, isUpper c = false) (small : ∀ v ∈ values, v < 32)
    (written : text.toList = readable ++ '1' :: values.map symbol)
    (fits : text.toList.length ≤ maxLength) (six : 6 ≤ values.length)
    (verified : verify .bech32 readable values = true) :
    decode? text = some (readable, ofValues (values.take (values.length - 6))) := by
  have plain : ∀ c ∈ values.map symbol, c ≠ '1' ∧ isUpper c = false := by
    rw [List.forall_mem_map]
    exact fun v member => symbol_plain (small v member)
  have absent : '1' ∉ values.map symbol := fun member => (plain _ member).1 rfl
  have cased : isMixedCase text.toList = false := by
    apply isMixedCase_of_isUpper
    rw [written, List.forall_mem_append, List.forall_mem_cons]
    exact ⟨lower, by decide, fun c member => (plain c member).2⟩
  have split : splitSeparator? text.toList = some (readable, values.map symbol) := by
    rw [written, splitSeparator?_append absent]
  unfold decode?
  simp only [split, Option.bind_eq_bind, Option.bind_some, mapM_value?_symbol small]
  rw [if_pos]
  simp [cased, valid, fits, six, verified]

theorem decode?_encode (valid : isReadablePart readable = true)
    (encoded : encode? readable bytes = some text) :
    decode? text = some (readable.map Char.toLower, bytes) := by
  obtain ⟨short, written⟩ := encode?_eq_some_iff.mp encoded
  obtain ⟨_, _, visible, _⟩ := isReadablePart_iff.mp valid
  have valid' := isReadablePart_lower valid
  have small : ∀ v ∈ toValues bytes ++
      checksum .bech32 (readable.map Char.toLower) (toValues bytes), v < 32 :=
    List.forall_mem_append.mpr ⟨toValues_lt bytes, checksum_lt⟩
  have length : (toValues bytes ++
      checksum .bech32 (readable.map Char.toLower) (toValues bytes)).length =
        (toValues bytes).length + 6 :=
    List.length_append
  have fits : text.toList.length ≤ maxLength := by
    rw [written, List.length_append, List.length_cons, List.length_map, List.length_map, length]
    omega
  rw [decode?_of_verified valid' (isUpper_lower visible) small written fits (by omega)
    (verify_checksum (expandPrefix_lt valid') (toValues_lt bytes)), length, Nat.add_sub_cancel,
    List.take_left' rfl, ofValues_toValues]

theorem encode?_lower (valid : isReadablePart readable = true) :
    encode? (readable.map Char.toLower) bytes = encode? readable bytes := by
  unfold encode?
  rw [lower_lower valid]

end

end TaxLedger.Bech32
