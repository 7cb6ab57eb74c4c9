/-
EVM words and memory, read through windows.

Memory is a total map from offsets to bytes, zero at the start of a call. `MSTORE` writes the 32
bytes of a word (`Memory.mstore`), the return data of a call overwrites a prefix of the return area
(`Memory.copy`). Every read is a window: `wordAt memory offset` for `MLOAD`, `slice` for the
arguments of a call.

The rules of this file say what a window sees of one write: all of it (`window_mstore_inside`),
nothing of it (`window_mstore_outside`), or its beginning or its end (`window_mstore_tail`,
`window_mstore_head`). Nothing else is needed to read the arguments of a call out of a chain of
overlapping stores. The word operations the packed formats are taken apart with (`SHR`, `SHL`, `BYTE`, `AND` with
a mask of ones) are quotients and remainders of windows in the same way.
-/

import Sando.Evm.Bytes

namespace Sando.Evm

/-! ### Words -/

/-- The word of the 32 bytes that start at `offset`. -/
def wordAt (bytes : ℕ → Byte) (offset : ℕ) : Word :=
  BitVec.ofNat 256 (window bytes offset 32)

/-- Byte `index` of a word, counted from its most significant end. -/
def byteOf (word : Word) (index : ℕ) : Byte :=
  BitVec.ofNat 8 (word.toNat / 256 ^ (31 - index))

/-- The word of a truth value. -/
def boolWord (value : Bool) : Word := if value then 1 else 0

@[simp] theorem toNat_wordAt (bytes : ℕ → Byte) (offset : ℕ) :
    (wordAt bytes offset).toNat = window bytes offset 32 := by
  rw [wordAt, BitVec.toNat_ofNat]
  exact Nat.mod_eq_of_lt (lt_of_lt_of_eq (window_lt bytes offset 32) (by norm_num))

theorem byteOf_wordAt (bytes : ℕ → Byte) {offset index : ℕ} (small : index < 32) :
    byteOf (wordAt bytes offset) index = bytes (offset + index) := by
  have inner := window_inner bytes offset index 1 (31 - index)
  rw [window_one, show index + 1 + (31 - index) = 32 by omega] at inner
  apply BitVec.eq_of_toNat_eq
  rw [byteOf, toNat_wordAt, BitVec.toNat_ofNat, inner]
  norm_num

@[simp] theorem boolWord_eq_zero {value : Bool} : boolWord value = 0 ↔ value = false := by
  cases value <;> decide

theorem boolWord_ne_zero {value : Bool} : boolWord value ≠ 0 ↔ value = true := by
  cases value <;> decide

@[simp] theorem boolWord_and (first second : Bool) :
    boolWord first &&& boolWord second = boolWord (first && second) := by
  cases first <;> cases second <;> decide

/-- Shifting a word right by whole bytes keeps its leading window. -/
theorem toNat_wordAt_shiftRight (bytes : ℕ → Byte) (offset count : ℕ) {bits : ℕ}
    (width : bits = 8 * (32 - count)) (small : count ≤ 32) :
    (wordAt bytes offset >>> bits).toNat = window bytes offset count := by
  rw [BitVec.toNat_ushiftRight, toNat_wordAt, Nat.shiftRight_eq_div_pow,
    window_high bytes offset count (32 - count), width, pow_mul,
    show count + (32 - count) = 32 by omega]
  norm_num

/-- A mask of `ones` one bits followed by `zeros` zero bits keeps the bits it covers. -/
theorem toNat_and_mask (word mask : Word) {ones zeros : ℕ} (width : ones + zeros = 256)
    (shape : mask.toNat = (2 ^ ones - 1) * 2 ^ zeros) :
    (word &&& mask).toNat = word.toNat / 2 ^ zeros * 2 ^ zeros := by
  have bound : word.toNat / 2 ^ zeros < 2 ^ ones := by
    rw [Nat.div_lt_iff_lt_mul (by positivity), ← pow_add, width]
    exact word.isLt
  rw [BitVec.toNat_and, shape]
  apply Nat.eq_of_testBit_eq
  intro bit
  rw [Nat.testBit_and, Nat.mul_comm (2 ^ ones - 1), Nat.mul_comm (word.toNat / _),
    Nat.testBit_two_pow_mul, Nat.testBit_two_pow_mul, Nat.testBit_two_pow_sub_one]
  by_cases low : zeros ≤ bit
  · by_cases high : bit - zeros < ones
    · simp [low, high, Nat.testBit_div_two_pow, show bit - zeros + zeros = bit by omega]
    · have big : (word.toNat / 2 ^ zeros).testBit (bit - zeros) = false :=
        Nat.testBit_lt_two_pow (lt_of_lt_of_le bound (Nat.pow_le_pow_right (by omega) (by omega)))
      simp [high, big]
  · simp [low]

/-- A mask of low one bits takes the remainder. -/
theorem toNat_and_lowMask (word mask : Word) (ones : ℕ) (shape : mask.toNat = 2 ^ ones - 1) :
    (word &&& mask).toNat = word.toNat % 2 ^ ones := by
  rw [BitVec.toNat_and, shape, Nat.and_two_pow_sub_one_eq_mod]

/-- Masking the leading `count` bytes of a word that was read at `offset`. -/
theorem toNat_wordAt_and_mask (bytes : ℕ → Byte) (offset : ℕ) {mask : Word} {count : ℕ}
    (small : count ≤ 32)
    (shape : mask.toNat = (2 ^ (8 * count) - 1) * 2 ^ (8 * (32 - count))) :
    (wordAt bytes offset &&& mask).toNat = window bytes offset count * 256 ^ (32 - count) := by
  rw [toNat_and_mask _ mask (by omega) shape, toNat_wordAt, window_high bytes offset count (32 - count),
    show count + (32 - count) = 32 by omega, pow_mul]
  norm_num

/-! ### Memory -/

/-- The memory of a call frame. -/
abbrev Memory := ℕ → Byte

namespace Memory

/-- Fresh memory. -/
def zero : Memory := fun _ => 0

/-- Write the 32 bytes of a word. -/
def mstore (memory : Memory) (offset : ℕ) (word : Word) : Memory := fun index =>
  if offset ≤ index ∧ index < offset + 32 then byteOf word (index - offset) else memory index

/-- Write what a call returned into its return area of `count` bytes: the area beyond the returned
data keeps what it held. -/
def copy (memory : Memory) (offset count : ℕ) (data : List Byte) : Memory :=
  match count with
  | 0 => memory
  | area + 1 => fun index =>
    if offset ≤ index ∧ index < offset + min (area + 1) data.length then
      byteAt data (index - offset)
    else memory index

/-- Writes that do not overlap commute. -/
theorem mstore_comm (memory : Memory) (first second : ℕ) (left right : Word)
    (apart : first + 32 ≤ second ∨ second + 32 ≤ first) :
    mstore (mstore memory first left) second right = mstore (mstore memory second right) first left := by
  funext index
  simp only [mstore]
  by_cases inFirst : first ≤ index ∧ index < first + 32
  · rw [if_neg (by omega), if_pos inFirst, if_pos inFirst]
  · rw [if_neg inFirst, if_neg inFirst]

section Rules

variable {memory : Memory} {word : Word} {data : List Byte} {start offset count area : ℕ}

@[simp] theorem window_zero : window zero offset count = 0 :=
  window_eq_zero fun _ _ => rfl

/-- A window that misses a write sees the memory before it. -/
theorem window_mstore_outside (apart : offset + count ≤ start ∨ start + 32 ≤ offset) :
    window (mstore memory start word) offset count = window memory offset count :=
  window_congr fun index small => if_neg (by omega)

/-- The whole word just written. -/
theorem window_mstore_same : window (mstore memory start word) start 32 = word.toNat := by
  have bytes : window (mstore memory start word) start 32
      = window (byteAt (bigEndian 32 word.toNat)) 0 32 := by
    refine window_congr fun index small => ?_
    have inner := window_bigEndian_inner index 1 (31 - index) word.toNat
    rw [window_one, show index + 1 + (31 - index) = 32 by omega] at inner
    rw [mstore, if_pos (by omega), Nat.add_sub_cancel_left, Nat.zero_add]
    apply BitVec.eq_of_toNat_eq
    rw [inner, byteOf, BitVec.toNat_ofNat]
    norm_num
  rw [bytes, window_bigEndian]
  exact Nat.mod_eq_of_lt (lt_of_lt_of_eq word.isLt (by norm_num))

/-- A window inside a write is a digit block of the word written. -/
theorem window_mstore_inside (lower : start ≤ offset) (upper : offset + count ≤ start + 32) :
    window (mstore memory start word) offset count
      = word.toNat / 256 ^ (start + 32 - (offset + count)) % 256 ^ count := by
  have inner := window_inner (mstore memory start word) start (offset - start) count
    (start + 32 - (offset + count))
  rw [show start + (offset - start) = offset by omega,
    show offset - start + count + (start + 32 - (offset + count)) = 32 by omega,
    window_mstore_same] at inner
  exact inner

/-- A window that starts inside a write and runs on behind it. -/
theorem window_mstore_head (lower : start ≤ offset) (meets : offset ≤ start + 32)
    (beyond : start + 32 ≤ offset + count) :
    window (mstore memory start word) offset count
      = word.toNat % 256 ^ (start + 32 - offset) * 256 ^ (offset + count - (start + 32))
        + window memory (start + 32) (offset + count - (start + 32)) := by
  obtain ⟨head, border⟩ : ∃ head, start + 32 = offset + head := ⟨start + 32 - offset, by omega⟩
  obtain ⟨rest, rfl⟩ : ∃ rest, count = head + rest := ⟨count - head, by omega⟩
  have covered : window (mstore memory start word) offset head = word.toNat % 256 ^ head := by
    rw [window_mstore_inside lower (by omega), show start + 32 - (offset + head) = 0 by omega,
      pow_zero, Nat.div_one]
  have behind : window (mstore memory start word) (offset + head) rest
      = window memory (offset + head) rest := window_mstore_outside (Or.inr (by omega))
  rw [window_add, covered, behind, border,
    show offset + head - offset = head by omega,
    show offset + (head + rest) - (offset + head) = rest by omega]

/-- A window that runs into a write and ends inside it. -/
theorem window_mstore_tail (before : offset ≤ start) (meets : start ≤ offset + count)
    (upper : offset + count ≤ start + 32) :
    window (mstore memory start word) offset count
      = window memory offset (start - offset) * 256 ^ (offset + count - start)
        + word.toNat / 256 ^ (start + 32 - (offset + count)) := by
  obtain ⟨front, rfl⟩ : ∃ front, start = offset + front := ⟨start - offset, by omega⟩
  obtain ⟨inner, rfl⟩ : ∃ inner, count = front + inner := ⟨count - front, by omega⟩
  have small : word.toNat / 256 ^ (32 - inner) < 256 ^ inner := by
    rw [Nat.div_lt_iff_lt_mul (by positivity), ← pow_add, show inner + (32 - inner) = 32 by omega]
    exact lt_of_lt_of_eq word.isLt (by norm_num)
  have covered : window (mstore memory (offset + front) word) (offset + front) inner
      = word.toNat / 256 ^ (32 - inner) := by
    rw [window_mstore_inside le_rfl (by omega),
      show offset + front + 32 - (offset + front + inner) = 32 - inner by omega,
      Nat.mod_eq_of_lt small]
  have ahead : window (mstore memory (offset + front) word) offset front
      = window memory offset front := window_mstore_outside (Or.inl le_rfl)
  rw [window_add, covered, ahead, show offset + front - offset = front by omega,
    show offset + (front + inner) - (offset + front) = inner by omega,
    show offset + front + 32 - (offset + (front + inner)) = 32 - inner by omega]

/-- The first word of the return area, when the call returned at least that much. -/
theorem window_copy_same (fits : count ≤ area) (returned : count ≤ data.length) :
    window (copy memory start area data) start count = window (byteAt data) 0 count := by
  cases area with
  | zero => rw [Nat.le_zero.mp fits]; rfl
  | succ area =>
    refine window_congr fun index small => ?_
    refine (if_pos (by omega)).trans ?_
    rw [Nat.add_sub_cancel_left, Nat.zero_add]

end Rules

end Memory

end Sando.Evm
