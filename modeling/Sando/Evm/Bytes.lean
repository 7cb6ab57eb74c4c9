/-
Big-endian byte windows.

EVM memory, calldata and the packed payloads built for them are all sequences of bytes that are
read and written at unaligned offsets. This file fixes the one notion the whole development uses
for such reads:

* `window bytes offset count` — the big-endian value of `count` consecutive bytes. A 32-byte window
  is an EVM word, a 20-byte window an address, a 4- or 5-byte window a packed amount.
* `bigEndian count value` — the `count` low bytes of `value`, big-endian. `window_bigEndian` and
  `slice_eq_bigEndian` say that the two are inverse to each other.

A window splits at any point (`window_add`), so an overlapping read is always taken apart along the
borders of the writes it covers; every fact about unaligned stores is an instance of this.
-/

import Mathlib.Data.BitVec
import Mathlib.Tactic.Ring
import Mathlib.Tactic.Linarith
import Mathlib.Tactic.NormNum

namespace Sando.Evm

/-- One byte. -/
abbrev Byte := BitVec 8

/-- A 256-bit machine word. -/
abbrev Word := BitVec 256

/-- A 160-bit account address. -/
abbrev Address := BitVec 160

theorem toNat_ofNat_of_lt {value : ℕ} (bounded : value < 2 ^ 256) :
    (BitVec.ofNat 256 value).toNat = value := by
  rw [BitVec.toNat_ofNat, Nat.mod_eq_of_lt bounded]

theorem two_pow_eight_mul (count : ℕ) : 2 ^ (8 * count) = 256 ^ count := by
  rw [pow_mul]
  norm_num

theorem two_pow_mul_eight (count : ℕ) : 2 ^ (count * 8) = 256 ^ count := by
  rw [Nat.mul_comm, two_pow_eight_mul]

/-! ### Windows -/

/-- The big-endian value of the `count` bytes that start at `offset`. -/
def window (bytes : ℕ → Byte) (offset : ℕ) : ℕ → ℕ
  | 0 => 0
  | count + 1 => window bytes offset count * 256 + (bytes (offset + count)).toNat

section Window

variable {bytes other : ℕ → Byte} {offset shifted count low high : ℕ}

@[simp] theorem window_zero_count : window bytes offset 0 = 0 := rfl

theorem window_one : window bytes offset 1 = (bytes offset).toNat := by
  simp [window]

theorem window_lt (bytes : ℕ → Byte) (offset count : ℕ) :
    window bytes offset count < 256 ^ count := by
  induction count with
  | zero => simp
  | succ count ih =>
    have last := (bytes (offset + count)).isLt
    rw [window, pow_succ]
    omega

/-- A window splits into its high and its low part. -/
theorem window_add (bytes : ℕ → Byte) (offset high low : ℕ) :
    window bytes offset (high + low)
      = window bytes offset high * 256 ^ low + window bytes (offset + high) low := by
  induction low with
  | zero => simp
  | succ low ih =>
    rw [← Nat.add_assoc, window, ih, window, pow_succ, Nat.add_assoc]
    ring

/-- Equal bytes have equal windows. -/
theorem window_congr
    (agree : ∀ index, index < count → bytes (offset + index) = other (shifted + index)) :
    window bytes offset count = window other shifted count := by
  induction count with
  | zero => rfl
  | succ count ih =>
    rw [window, window, ih fun index small => agree index (by omega), agree count (by omega)]

theorem window_eq_zero (zero : ∀ index, index < count → bytes (offset + index) = 0) :
    window bytes offset count = 0 := by
  induction count with
  | zero => rfl
  | succ count ih =>
    rw [window, ih fun index small => zero index (by omega), zero count (by omega)]
    rfl

/-- The high part of a window is a quotient. -/
theorem window_high (bytes : ℕ → Byte) (offset high low : ℕ) :
    window bytes offset high = window bytes offset (high + low) / 256 ^ low := by
  have small := window_lt bytes (offset + high) low
  rw [window_add, Nat.mul_comm, Nat.mul_add_div (by positivity), Nat.div_eq_of_lt small,
    Nat.add_zero]

/-- The low part of a window is a remainder. -/
theorem window_low (bytes : ℕ → Byte) (offset high low : ℕ) :
    window bytes (offset + high) low = window bytes offset (high + low) % 256 ^ low := by
  have small := window_lt bytes (offset + high) low
  rw [window_add, Nat.mul_comm, Nat.mul_add_mod, Nat.mod_eq_of_lt small]

/-- A window inside a wider one is a digit block of its value. -/
theorem window_inner (bytes : ℕ → Byte) (offset before inside after : ℕ) :
    window bytes (offset + before) inside
      = window bytes offset (before + inside + after) / 256 ^ after % 256 ^ inside := by
  rw [window_low, window_high bytes offset (before + inside) after]

/-- Two windows with the same value have the same bytes. -/
theorem byte_eq_of_window_eq (same : window bytes offset count = window other shifted count)
    {index : ℕ} (small : index < count) : bytes (offset + index) = other (shifted + index) := by
  induction count with
  | zero => omega
  | succ count ih =>
    have first := (bytes (offset + count)).isLt
    have second := (other (shifted + count)).isLt
    rw [window, window] at same
    rcases Nat.lt_succ_iff_lt_or_eq.mp small with earlier | rfl
    · exact ih (by omega) earlier
    · exact BitVec.eq_of_toNat_eq (by omega)

/-- A window equals the one a byte later exactly when all bytes they cover are equal. -/
theorem window_succ_eq_iff :
    window bytes offset count = window bytes (offset + 1) count
      ↔ ∀ index, index < count → bytes (offset + 1 + index) = bytes offset := by
  constructor
  · intro same index
    induction index with
    | zero =>
      intro small
      exact (byte_eq_of_window_eq same small).symm
    | succ index ih =>
      intro small
      rw [← byte_eq_of_window_eq same small, ← ih (by omega), ← Nat.add_assoc, Nat.add_right_comm]
  · intro equal
    refine window_congr fun index small => ?_
    cases index with
    | zero => exact (equal 0 small).symm
    | succ index =>
      rw [equal (index + 1) small, ← equal index (by omega), Nat.add_right_comm, Nat.add_assoc]

end Window

/-! ### Byte strings -/

/-- The `count` low bytes of a value, big-endian. -/
def bigEndian : ℕ → ℕ → List Byte
  | 0, _ => []
  | count + 1, value => bigEndian count (value / 256) ++ [BitVec.ofNat 8 value]

/-- A byte string as a zero-extended sequence, the way calldata is read. -/
def byteAt (data : List Byte) (index : ℕ) : Byte := data.getD index 0

/-- The `count` bytes that start at `offset`. -/
def slice (bytes : ℕ → Byte) (offset count : ℕ) : List Byte :=
  (List.range count).map fun index => bytes (offset + index)

section Strings

variable {bytes : ℕ → Byte} {front back : List Byte} {offset count value : ℕ}

@[simp] theorem length_bigEndian (count value : ℕ) : (bigEndian count value).length = count := by
  induction count generalizing value with
  | zero => rfl
  | succ count ih => simp [bigEndian, ih]

@[simp] theorem length_slice (bytes : ℕ → Byte) (offset count : ℕ) :
    (slice bytes offset count).length = count := by
  simp [slice]

theorem byteAt_append_left {index : ℕ} (inside : index < front.length) :
    byteAt (front ++ back) index = byteAt front index := by
  simp only [byteAt, List.getD_eq_getElem?_getD, List.getElem?_append_left inside]

theorem byteAt_append_right {index : ℕ} (beyond : front.length ≤ index) :
    byteAt (front ++ back) index = byteAt back (index - front.length) := by
  simp only [byteAt, List.getD_eq_getElem?_getD, List.getElem?_append_right beyond]

theorem byteAt_of_length_le {index : ℕ} (beyond : front.length ≤ index) :
    byteAt front index = 0 := by
  simp only [byteAt, List.getD_eq_getElem?_getD, List.getElem?_eq_none beyond, Option.getD_none]

/-- Reading a byte string inside its first part. -/
theorem window_append_left (inside : offset + count ≤ front.length) :
    window (byteAt (front ++ back)) offset count = window (byteAt front) offset count :=
  window_congr fun _ _ => byteAt_append_left (by omega)

/-- Reading a byte string behind its first part. -/
theorem window_append_right (beyond : front.length ≤ offset) :
    window (byteAt (front ++ back)) offset count
      = window (byteAt back) (offset - front.length) count :=
  window_congr fun _ _ => by
    rw [byteAt_append_right (by omega)]
    congr 1
    omega

/-- Past its end a byte string reads as zero. -/
theorem window_past_end (beyond : front.length ≤ offset) :
    window (byteAt front) offset count = 0 :=
  window_eq_zero fun _ _ => byteAt_of_length_le (by omega)

/-- The bytes of a value read back as the value, reduced to their width. -/
@[simp] theorem window_bigEndian (count value : ℕ) :
    window (byteAt (bigEndian count value)) 0 count = value % 256 ^ count := by
  induction count generalizing value with
  | zero => simp [Nat.mod_one]
  | succ count ih =>
    have last : byteAt (bigEndian (count + 1) value) (0 + count) = BitVec.ofNat 8 value := by
      rw [bigEndian, byteAt_append_right (by simp)]
      simp [byteAt]
    rw [window, last, bigEndian, window_append_left (by simp), ih, BitVec.toNat_ofNat,
      show (256 : ℕ) ^ (count + 1) = 256 * 256 ^ count by ring, Nat.mod_mul]
    omega

/-- A window inside the bytes of a value is a digit block of the value. -/
theorem window_bigEndian_inner (before inside after value : ℕ) :
    window (byteAt (bigEndian (before + inside + after) value)) before inside
      = value / 256 ^ after % 256 ^ inside := by
  have whole := window_inner (byteAt (bigEndian (before + inside + after) value)) 0 before inside after
  rw [Nat.zero_add, window_bigEndian] at whole
  rw [whole, show before + inside + after = after + (before + inside) by omega, pow_add,
    Nat.mod_mul_right_div_self, Nat.mod_mod_of_dvd]
  exact pow_dvd_pow 256 (by omega)

theorem bigEndian_mod (count value : ℕ) :
    bigEndian count (value % 256 ^ count) = bigEndian count value := by
  induction count generalizing value with
  | zero => rfl
  | succ count ih =>
    have head : value % 256 ^ (count + 1) / 256 = value / 256 % 256 ^ count := by
      rw [pow_succ, Nat.mul_comm, Nat.mod_mul_right_div_self]
    have last : BitVec.ofNat 8 (value % 256 ^ (count + 1)) = BitVec.ofNat 8 value := by
      apply BitVec.eq_of_toNat_eq
      rw [BitVec.toNat_ofNat, BitVec.toNat_ofNat]
      exact Nat.mod_mod_of_dvd _ (Dvd.intro_left (256 ^ count) (pow_succ 256 count).symm)
    rw [bigEndian, bigEndian, head, ih, last]

/-- Two byte strings of one width agree exactly when their values do. -/
theorem bigEndian_inj {first second : ℕ} :
    bigEndian count first = bigEndian count second ↔ first % 256 ^ count = second % 256 ^ count := by
  constructor
  · intro same
    rw [← window_bigEndian count first, ← window_bigEndian count second, same]
  · intro same
    rw [← bigEndian_mod count first, ← bigEndian_mod count second, same]

theorem slice_succ (bytes : ℕ → Byte) (offset count : ℕ) :
    slice bytes offset (count + 1) = slice bytes offset count ++ [bytes (offset + count)] := by
  simp [slice, List.range_succ]

/-- Reading inside a slice. -/
theorem window_slice {start length : ℕ} (inside : offset + count ≤ length) :
    window (byteAt (slice bytes start length)) offset count = window bytes (start + offset) count := by
  refine window_congr fun index small => ?_
  rw [byteAt, slice, List.getD_eq_getElem?_getD, List.getElem?_eq_getElem (by simp; omega)]
  simp [Nat.add_assoc]

/-- A slice is the byte string of its window. -/
theorem slice_eq_bigEndian (bytes : ℕ → Byte) (offset count : ℕ) :
    slice bytes offset count = bigEndian count (window bytes offset count) := by
  induction count with
  | zero => rfl
  | succ count ih =>
    have byte := (bytes (offset + count)).isLt
    have last : BitVec.ofNat 8 (window bytes offset (count + 1)) = bytes (offset + count) := by
      apply BitVec.eq_of_toNat_eq
      rw [BitVec.toNat_ofNat, window]
      omega
    have head : window bytes offset (count + 1) / 256 = window bytes offset count := by
      rw [window]
      omega
    rw [slice_succ, bigEndian, last, head, ih]

theorem slice_add (bytes : ℕ → Byte) (offset high low : ℕ) :
    slice bytes offset (high + low) = slice bytes offset high ++ slice bytes (offset + high) low := by
  induction low with
  | zero => simp [slice]
  | succ low ih => rw [← Nat.add_assoc, slice_succ, ih, slice_succ, List.append_assoc, Nat.add_assoc]

/-- The bytes of a value, cut in two. -/
theorem bigEndian_add (high low value : ℕ) :
    bigEndian (high + low) value = bigEndian high (value / 256 ^ low) ++ bigEndian low value := by
  induction low generalizing value with
  | zero => simp [bigEndian]
  | succ low ih =>
    rw [← Nat.add_assoc, bigEndian, ih, bigEndian, Nat.div_div_eq_div_mul, ← pow_succ',
      List.append_assoc]

end Strings

end Sando.Evm
