import Mathlib.Data.String.Basic
import TaxLedger.Proofs.Bytes.Utf8

/-!
The order of texts. A text comes before another one if its bytes do (`encode_lt_iff`).
-/

namespace TaxLedger.Utf8

/-! ### Characters -/

theorem ofNat_cons_lt {m n : Nat} (small : m < 256) (small' : n < 256) (rest rest' : List UInt8) :
    UInt8.ofNat m :: rest < UInt8.ofNat n :: rest' ↔ m < n ∨ m = n ∧ rest < rest' := by
  have left : (UInt8.ofNat m).toNat = m := UInt8.toNat_ofNat_of_lt' small
  have right : (UInt8.ofNat n).toNat = n := UInt8.toNat_ofNat_of_lt' small'
  rw [List.cons_lt_cons_iff, UInt8.lt_iff_toNat_lt, ← UInt8.toNat_inj, left, right]

/-- The bytes of a lower character come first, whatever stands behind the two characters. -/
theorem utf8EncodeChar_append_lt {c d : Char} (below : c < d) (rest rest' : List UInt8) :
    String.utf8EncodeChar c ++ rest < String.utf8EncodeChar d ++ rest' := by
  have order : c.val.toNat < d.val.toNat := below
  have valid : d.val.toNat < 0xd800 ∨ 0xdfff < d.val.toNat ∧ d.val.toNat < 0x110000 := d.valid
  unfold String.utf8EncodeChar
  generalize c.val.toNat = m at order
  generalize d.val.toNat = n at order valid
  dsimp only
  have low : m / 64 < n / 64 ∨ m / 64 = n / 64 ∧ m % 64 < n % 64 := by omega
  have middle : m / 64 < n / 64 →
      m / 4096 < n / 4096 ∨ m / 4096 = n / 4096 ∧ m / 64 % 64 < n / 64 % 64 := by
    omega
  have high : m / 4096 < n / 4096 →
      m / 262144 < n / 262144 ∨ m / 262144 = n / 262144 ∧ m / 4096 % 64 < n / 4096 % 64 := by
    omega
  have top : m / 262144 % 8 = m / 262144 ∧ n / 262144 % 8 = n / 262144 := by omega
  -- The first byte grows with the number of bytes; of as many bytes the first that differs decides.
  repeat' split
  all_goals
    simp (disch := omega) only [List.cons_append, List.nil_append, ofNat_cons_lt]
    omega

theorem flatMap_lt {cs ds : List Char} (below : cs < ds) :
    cs.flatMap String.utf8EncodeChar < ds.flatMap String.utf8EncodeChar := by
  induction below with
  | @nil d ds =>
    rw [List.flatMap_nil, List.flatMap_cons]
    cases bytes : String.utf8EncodeChar d with
    | nil => exact absurd bytes String.utf8EncodeChar_ne_nil
    | cons b rest => exact List.Lex.nil
  | rel lower =>
    rw [List.flatMap_cons, List.flatMap_cons]
    exact utf8EncodeChar_append_lt lower _ _
  | cons _ ih =>
    rw [List.flatMap_cons, List.flatMap_cons]
    exact List.append_left_lt ih

theorem encode_lt_of_lt {s t : String} (below : s < t) : encode s < encode t := by
  rw [encode_eq, encode_eq]
  exact flatMap_lt below

theorem encode_le_iff {s t : String} : encode s ≤ encode t ↔ s ≤ t := by
  constructor
  · intro before
    rw [← String.not_lt]
    intro after
    exact List.not_lt.mpr before (encode_lt_of_lt after)
  · intro before
    rcases lt_or_eq_of_le before with below | rfl
    · exact List.le_of_lt (encode_lt_of_lt below)
    · exact List.le_refl _

end TaxLedger.Utf8
