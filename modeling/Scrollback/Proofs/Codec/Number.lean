/-
Numbers and their bytes.  A number below `256 ^ width` is read back from its `width` bytes in
either byte order (`ByteOrder.number_bytes`); every mode holds just such numbers
(`Mode.max_lt`), and every 64-bit integer survives being a word (`intOfWord_wordOfInt`).
-/
import Mathlib
import Scrollback.Codec.Format

namespace Scrollback

namespace ByteOrder

@[simp] theorem length_bytes (o : ByteOrder) (width n : Nat) : (o.bytes width n).length = width := by
  cases o <;> simp [bytes]

/-- The lowest byte of a number, and the bytes of what is left of it. -/
theorem bytes_little_succ (width n : Nat) :
    little.bytes (width + 1) n = UInt8.ofNat n :: little.bytes width (n / 256) := by
  simp only [bytes, List.range_succ_eq_map, List.map_cons, List.map_map]
  congr 1
  refine List.map_congr_left fun i _ => ?_
  show UInt8.ofNat (n >>> (8 * (i + 1))) = UInt8.ofNat ((n / 256) >>> (8 * i))
  rw [show n / 256 = n >>> 8 by rw [Nat.shiftRight_eq_div_pow], ← Nat.shiftRight_add,
    show 8 * (i + 1) = 8 + 8 * i by omega]

theorem number_bytes_little {width n : Nat} (h : n < 256 ^ width) :
    little.number (little.bytes width n) = n := by
  induction width generalizing n with
  | zero =>
    obtain rfl : n = 0 := by omega
    rfl
  | succ width ih =>
    have low : n / 256 < 256 ^ width := by
      rw [Nat.div_lt_iff_lt_mul (by decide), ← Nat.pow_succ]
      exact h
    have rest := ih low
    simp only [number] at rest
    rw [bytes_little_succ, number, List.foldr_cons, rest]
    show n % 256 + 256 * (n / 256) = n
    exact Nat.mod_add_div n 256

/-- The bytes of a number in the one order are those in the other order reversed. -/
theorem number_bytes_big (width n : Nat) :
    big.number (big.bytes width n) = little.number (little.bytes width n) := by
  simp [number, bytes]

/-- A number that its bytes can hold is read back from them. -/
theorem number_bytes (o : ByteOrder) {width n : Nat} (h : n < 256 ^ width) :
    o.number (o.bytes width n) = n := by
  cases o with
  | little => exact number_bytes_little h
  | big => rw [number_bytes_big, number_bytes_little h]

theorem number_little_lt (bs : List UInt8) : little.number bs < 256 ^ bs.length := by
  induction bs with
  | nil => decide
  | cons b bs ih =>
    have low := b.toNat_lt
    have rest : little.number (b :: bs) = b.toNat + 256 * little.number bs := rfl
    rw [rest, List.length_cons, Nat.pow_succ]
    omega

/-- Some bytes hold no more numbers than their width allows. -/
theorem number_lt (o : ByteOrder) (bs : List UInt8) : o.number bs < 256 ^ bs.length := by
  cases o with
  | little => exact number_little_lt bs
  | big =>
    rw [← List.length_reverse]
    exact number_little_lt bs.reverse

end ByteOrder

/-- The greatest number of a mode is the greatest one that its width can hold. -/
theorem Mode.max_lt (m : Mode) : m.max < 256 ^ m.width := by
  cases m <;> decide

@[simp] theorem Mode.ofTag?_tag (m : Mode) : Mode.ofTag? m.tag = some m := by
  cases m <;> rfl

@[simp] theorem ByteOrder.ofTag?_tag (o : ByteOrder) : ByteOrder.ofTag? o.tag = some o := by
  cases o <;> rfl

theorem wordOfInt_lt (i : Int) : wordOfInt i < 256 ^ 8 :=
  (BitVec.ofInt 64 i).isLt

/-- An integer of 64 bits is read back from its word. -/
theorem intOfWord_wordOfInt {i : Int} (low : -9223372036854775808 ≤ i)
    (high : i < 9223372036854775808) : intOfWord (wordOfInt i) = i := by
  rw [intOfWord, wordOfInt, BitVec.ofNat_toNat, BitVec.setWidth_eq, BitVec.toInt_ofInt,
    Int.bmod_eq_of_le (by omega) (by omega)]

end Scrollback
