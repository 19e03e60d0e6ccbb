import TaxLedger.Power

/-!
# Digests of blocks

SHA-256 and RIPEMD-160 both put sixty-four bytes of a padded message at a time into a chaining
state. They part in the state, in its step, and in the order of the bytes of a number.
-/

namespace TaxLedger.Digest

inductive ByteOrder where
  | bigEndian
  | littleEndian
  deriving DecidableEq, Repr

namespace ByteOrder

/-- From the most significant byte first to the order, and back. -/
def arrange : ByteOrder → List UInt8 → List UInt8
  | bigEndian, bytes => bytes
  | littleEndian, bytes => bytes.reverse

def toNat (order : ByteOrder) (bytes : List UInt8) : Nat :=
  (order.arrange bytes).foldl (fun n byte => n * 256 + byte.toNat) 0

/-- The `count` low bytes of `n`. -/
def bytesOf (order : ByteOrder) (count n : Nat) : List UInt8 :=
  order.arrange ((List.range count).reverse.map fun i => UInt8.ofNat (n / twoTo (8 * i) % 256))

theorem length_bytesOf (order : ByteOrder) (count n : Nat) :
    (order.bytesOf count n).length = count := by
  cases order <;> simp [bytesOf, arrange]

def words (order : ByteOrder) : List UInt8 → List UInt32
  | a :: b :: c :: d :: rest => UInt32.ofNat (order.toNat [a, b, c, d]) :: order.words rest
  | _ => []

/-- The message with a one bit, zeros up to eight bytes short of a whole block, and its length in
bits. -/
def pad (order : ByteOrder) (message : List UInt8) : List UInt8 :=
  message ++ [0x80] ++ List.replicate ((119 - message.length % 64) % 64) 0 ++
    order.bytesOf 8 (8 * message.length)

/-- No byte is left behind the last block. -/
theorem dvd_length_pad (order : ByteOrder) (message : List UInt8) :
    64 ∣ (order.pad message).length := by
  simp only [pad, List.length_append, List.length_cons, List.length_nil, List.length_replicate,
    length_bytesOf]
  omega

end ByteOrder

variable {σ : Type} (order : ByteOrder) (compress : σ → List UInt8 → σ)

def compressAll : (count : Nat) → σ → List UInt8 → σ
  | 0, s, _ => s
  | count + 1, s, bytes => compressAll count (compress s (bytes.take 64)) (bytes.drop 64)

/-- The bytes of the words of the state that `message` leads to. -/
def ofMessage (initial : σ) (output : σ → List UInt32) (message : List UInt8) : List UInt8 :=
  let padded := order.pad message
  let last := compressAll compress (padded.length / 64) initial padded
  (output last).flatMap fun word => order.bytesOf 4 word.toNat

end TaxLedger.Digest
