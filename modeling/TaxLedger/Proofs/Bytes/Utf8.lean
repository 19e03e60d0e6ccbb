import TaxLedger.Bytes.Utf8

/-!
Text in UTF-8 and back. The bytes of a text are read as that text (`decode?_encode`).
-/

namespace TaxLedger.Utf8

/-! ### Bytes of a text -/

theorem toList_loop (bytes : ByteArray) (i : Nat) (front : List UInt8) :
    ByteArray.toList.loop bytes i front = front.reverse ++ bytes.data.toList.drop i := by
  fun_induction ByteArray.toList.loop bytes i front with
  | case1 i front inside ih =>
    have bound : i < bytes.data.toList.length := by simpa using inside
    rw [ih, List.drop_eq_getElem_cons bound]
    simp [ByteArray.get!, inside]
  | case2 i front outside =>
    rw [List.drop_eq_nil_of_le (by simpa using Nat.le_of_not_lt outside), List.append_nil]

theorem encode_eq (s : String) : encode s = s.toList.flatMap String.utf8EncodeChar := by
  rw [encode, ByteArray.toList, toList_loop, String.toUTF8_eq_toByteArray, ← String.utf8Encode_toList,
    List.utf8Encode, List.toList_data_toByteArray]
  rfl

/-! ### The character at the front -/

theorem continuation?_ofNat {n : Nat} (small : n < 64) :
    continuation? (UInt8.ofNat (n + 128)) = some n := by
  have read : (UInt8.ofNat (n + 128)).toNat = n + 128 := UInt8.toNat_ofNat_of_lt' (show _ < 256 by omega)
  rw [continuation?, read, if_pos (by simp; omega), Nat.add_sub_cancel]

section
variable {n : Nat} (rest : List UInt8)

theorem first?_one (high : n ≤ 127) : first? (UInt8.ofNat n :: rest) = some (Char.ofNat n, 1) := by
  have lead : (UInt8.ofNat n).toNat = n := UInt8.toNat_ofNat_of_lt' (show _ < 256 by omega)
  simp only [first?, lead]
  rw [if_pos (by omega)]

theorem first?_two (low : 127 < n) (high : n ≤ 2047) :
    first? (UInt8.ofNat (n / 64 % 32 + 192) :: UInt8.ofNat (n % 64 + 128) :: rest) =
      some (Char.ofNat n, 2) := by
  have lead : (UInt8.ofNat (n / 64 % 32 + 192)).toNat = n / 64 % 32 + 192 :=
    UInt8.toNat_ofNat_of_lt' (show _ < 256 by omega)
  have range : 0xc2 ≤ n / 64 % 32 + 192 ∧ n / 64 % 32 + 192 < 0xe0 := by omega
  have point : (n / 64 % 32 + 192 - 0xc0) * 0x40 + n % 64 = n := by omega
  simp only [first?, lead, continuation?_ofNat (Nat.mod_lt n (show 64 > 0 by decide))]
  rw [if_neg (by omega), if_pos (by simpa using range), Option.map_some, point]

theorem first?_three (low : 2047 < n) (high : n ≤ 65535) (valid : n < 0xd800 ∨ 0xe000 ≤ n) :
    first? (UInt8.ofNat (n / 4096 % 16 + 224) :: UInt8.ofNat (n / 64 % 64 + 128) ::
      UInt8.ofNat (n % 64 + 128) :: rest) = some (Char.ofNat n, 3) := by
  have lead : (UInt8.ofNat (n / 4096 % 16 + 224)).toNat = n / 4096 % 16 + 224 :=
    UInt8.toNat_ofNat_of_lt' (show _ < 256 by omega)
  have range : 0xe0 ≤ n / 4096 % 16 + 224 ∧ n / 4096 % 16 + 224 < 0xf0 := by omega
  have point : ((n / 4096 % 16 + 224 - 0xe0) * 0x40 + n / 64 % 64) * 0x40 + n % 64 = n := by omega
  have whole : ¬(n < 0x800 ∨ 0xd800 ≤ n ∧ n < 0xe000) := by omega
  simp only [first?, lead, continuation?_ofNat (Nat.mod_lt _ (show 64 > 0 by decide)),
    Option.bind_eq_bind, Option.bind_some, point]
  rw [if_neg (by omega), if_neg (by simp), if_pos (by simpa using range),
    if_neg (by simpa using whole)]

theorem first?_four (low : 65535 < n) (high : n < 0x110000) :
    first? (UInt8.ofNat (n / 262144 % 8 + 240) :: UInt8.ofNat (n / 4096 % 64 + 128) ::
      UInt8.ofNat (n / 64 % 64 + 128) :: UInt8.ofNat (n % 64 + 128) :: rest) =
        some (Char.ofNat n, 4) := by
  have lead : (UInt8.ofNat (n / 262144 % 8 + 240)).toNat = n / 262144 % 8 + 240 :=
    UInt8.toNat_ofNat_of_lt' (show _ < 256 by omega)
  have range : 0xf0 ≤ n / 262144 % 8 + 240 ∧ n / 262144 % 8 + 240 < 0xf5 := by omega
  have point : (((n / 262144 % 8 + 240 - 0xf0) * 0x40 + n / 4096 % 64) * 0x40 + n / 64 % 64) * 0x40 +
      n % 64 = n := by
    omega
  have whole : ¬(n < 0x10000 ∨ 0x110000 ≤ n) := by omega
  simp only [first?, lead, continuation?_ofNat (Nat.mod_lt _ (show 64 > 0 by decide)),
    Option.bind_eq_bind, Option.bind_some, point]
  rw [if_neg (by omega), if_neg (by simp), if_neg (by simp), if_pos (by simpa using range),
    if_neg (by simpa using whole)]

end

/-- A character is read from its bytes, whatever comes behind them. -/
theorem first?_utf8EncodeChar (c : Char) (rest : List UInt8) :
    first? (String.utf8EncodeChar c ++ rest) = some (c, (String.utf8EncodeChar c).length) := by
  have valid : c.val.toNat < 0xd800 ∨ 0xdfff < c.val.toNat ∧ c.val.toNat < 0x110000 := c.valid
  have whole : Char.ofNat c.val.toNat = c := Char.ofNat_toNat c
  unfold String.utf8EncodeChar
  generalize c.val.toNat = n at valid whole ⊢
  subst whole
  dsimp only
  split
  · exact first?_one rest ‹_›
  split
  · exact first?_two rest (by omega) ‹_›
  split
  · exact first?_three rest (by omega) ‹_› (by omega)
  · exact first?_four rest (by omega) (by omega)

/-! ### Texts -/

theorem charsFrom_append (skipped rest : List UInt8) :
    charsFrom skipped.length (skipped ++ rest) = charsFrom 0 rest := by
  induction skipped with
  | nil => rfl
  | cons b skipped ih => exact ih

theorem charsFrom_flatMap (cs : List Char) :
    charsFrom 0 (cs.flatMap String.utf8EncodeChar) = cs.map some := by
  induction cs with
  | nil => rfl
  | cons c cs ih =>
    have read := first?_utf8EncodeChar c (cs.flatMap String.utf8EncodeChar)
    rw [List.flatMap_cons, List.map_cons, ← ih]
    cases bytes : String.utf8EncodeChar c with
    | nil => exact absurd bytes String.utf8EncodeChar_ne_nil
    | cons b tail =>
      rw [bytes, List.cons_append] at read
      rw [List.cons_append, charsFrom, read]
      exact congrArg _ (charsFrom_append tail _)

theorem decode?_encode (s : String) : decode? (encode s) = some s := by
  have read : (s.toList.map some).mapM id = some s.toList := by
    rw [List.mapM_map]
    exact List.mapM_pure.trans (congrArg some (List.map_id _))
  rw [decode?, encode_eq, charsFrom_flatMap, read, Option.map_some, String.ofList_toList]

end TaxLedger.Utf8
