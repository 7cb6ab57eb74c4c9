/-
Calls in the Solidity ABI.

`encodeCall selector words` is a call with static arguments; a dynamic `bytes` argument is a word with
its offset and, behind the words, its length and its data. `slice_eq_encodeCall` finds a call in the
memory of the caller, `argument_encodeCall` and `dynamicArgument_encodeCall` find the arguments in the
calldata of the callee.
-/

import Sando.Evm.Memory

namespace Sando.Evm

/-- Words, one behind the other. -/
def encodeWords (words : List ℕ) : List Byte := words.flatMap (bigEndian 32)

/-- A selector and the words of the arguments. -/
def encodeCall (selector : ℕ) (words : List ℕ) : List Byte :=
  bigEndian 4 selector ++ encodeWords words

/-- The `count` words that start at `offset`. -/
def wordsAt (bytes : ℕ → Byte) (offset : ℕ) : ℕ → List ℕ
  | 0 => []
  | count + 1 => window bytes offset 32 :: wordsAt bytes (offset + 32) count

/-- The address of the 20 bytes that start at `offset`. -/
def addressAt (bytes : ℕ → Byte) (offset : ℕ) : Address :=
  BitVec.ofNat 160 (window bytes offset 20)

/-- Argument `index` of a call, as a word. -/
def argument (input : List Byte) (index : ℕ) : ℕ := window (byteAt input) (4 + 32 * index) 32

/-- The `bytes` argument whose offset is argument `index`. -/
def dynamicArgument (input : List Byte) (index : ℕ) : List Byte :=
  slice (byteAt input) (4 + argument input index + 32)
    (window (byteAt input) (4 + argument input index) 32)

section Encoding

variable {bytes : ℕ → Byte} {offset selector index : ℕ} {words : List ℕ} {tail : List Byte}

theorem encodeWords_cons (word : ℕ) (words : List ℕ) :
    encodeWords (word :: words) = bigEndian 32 word ++ encodeWords words := rfl

@[simp] theorem length_encodeWords (words : List ℕ) :
    (encodeWords words).length = 32 * words.length := by
  induction words with
  | nil => rfl
  | cons word words ih =>
    rw [encodeWords_cons, List.length_append, length_bigEndian, List.length_cons, ih]
    ring

@[simp] theorem length_encodeCall (selector : ℕ) (words : List ℕ) :
    (encodeCall selector words).length = 4 + 32 * words.length := by
  rw [encodeCall, List.length_append, length_bigEndian, length_encodeWords]

theorem slice_words (bytes : ℕ → Byte) (offset count : ℕ) :
    slice bytes offset (32 * count) = encodeWords (wordsAt bytes offset count) := by
  induction count generalizing offset with
  | zero => rfl
  | succ count ih =>
    rw [show 32 * (count + 1) = 32 + 32 * count by ring, slice_add, ih, slice_eq_bigEndian, wordsAt,
      encodeWords_cons]

/-- A call is found in memory when its selector and its words are. -/
theorem slice_eq_encodeCall {count : ℕ} (size : count = 4 + 32 * words.length)
    (head : window bytes offset 4 = selector)
    (body : wordsAt bytes (offset + 4) words.length = words) :
    slice bytes offset count = encodeCall selector words := by
  rw [size, slice_add, slice_words, body, slice_eq_bigEndian, head, encodeCall]

@[simp] theorem toNat_addressAt (bytes : ℕ → Byte) (offset : ℕ) :
    (addressAt bytes offset).toNat = window bytes offset 20 := by
  rw [addressAt, BitVec.toNat_ofNat]
  exact Nat.mod_eq_of_lt (lt_of_lt_of_eq (window_lt bytes offset 20) (by norm_num))

/-- Shifting a word right by 96 bits leaves its leading address. -/
theorem wordAt_shiftRight_address (bytes : ℕ → Byte) (offset : ℕ) :
    wordAt bytes offset >>> 0x60 = (addressAt bytes offset).setWidth 256 := by
  apply BitVec.eq_of_toNat_eq
  rw [toNat_wordAt_shiftRight bytes offset 20 (by norm_num) (by norm_num),
    BitVec.toNat_setWidth, toNat_addressAt, Nat.mod_eq_of_lt]
  exact lt_trans (window_lt bytes offset 20) (by norm_num)

@[simp] theorem setWidth_setWidth_address (address : Address) :
    (address.setWidth 256).setWidth 160 = address := by
  rw [BitVec.setWidth_setWidth_of_le _ (by norm_num), BitVec.setWidth_eq]

@[simp] theorem toNat_setWidth_address (address : Address) :
    (address.setWidth 256).toNat = address.toNat := by
  rw [BitVec.toNat_setWidth, Nat.mod_eq_of_lt (lt_trans address.isLt (by norm_num))]

/-- The bytes of an address are read back as the address. -/
theorem addressAt_bigEndian (address : Address) :
    addressAt (byteAt (bigEndian 20 address.toNat ++ tail)) 0 = address := by
  apply BitVec.eq_of_toNat_eq
  rw [toNat_addressAt, window_append_left (by simp), window_bigEndian]
  exact Nat.mod_eq_of_lt (lt_of_lt_of_eq address.isLt (by norm_num))

/-- Reading an address behind the first part of a byte string. -/
theorem addressAt_append_right {front : List Byte} (beyond : front.length ≤ offset) :
    addressAt (byteAt (front ++ tail)) offset = addressAt (byteAt tail) (offset - front.length) := by
  rw [addressAt, addressAt, window_append_right beyond]

theorem window_encodeWords (inside : index < words.length) :
    window (byteAt (encodeWords words ++ tail)) (32 * index) 32 = words[index] % 256 ^ 32 := by
  induction words generalizing index with
  | nil => exact absurd inside (Nat.not_lt_zero index)
  | cons word words ih =>
    rw [encodeWords_cons, List.append_assoc]
    cases index with
    | zero => rw [window_append_left (by simp), Nat.mul_zero, window_bigEndian, List.getElem_cons_zero]
    | succ index =>
      rw [window_append_right (by rw [length_bigEndian]; omega), length_bigEndian,
        show 32 * (index + 1) - 32 = 32 * index by omega, ih (Nat.lt_of_succ_lt_succ inside),
        List.getElem_cons_succ]

/-- Every word of an answer is read back. -/
theorem window_word (index : ℕ) {word : ℕ} (found : words[index]? = some word)
    (small : word < 256 ^ 32) :
    window (byteAt (encodeWords words)) (32 * index) 32 = word := by
  obtain ⟨inside, rfl⟩ := List.getElem?_eq_some_iff.mp found
  have read : window (byteAt (encodeWords words ++ [])) (32 * index) 32 = words[index] % 256 ^ 32 :=
    window_encodeWords inside
  rw [List.append_nil] at read
  rw [read, Nat.mod_eq_of_lt small]

/-- The callee reads the words it was called with. -/
theorem argument_encodeCall (inside : index < words.length) (small : words[index] < 256 ^ 32) :
    argument (encodeCall selector words ++ tail) index = words[index] := by
  rw [argument, encodeCall, List.append_assoc, window_append_right (by simp), length_bigEndian,
    Nat.add_sub_cancel_left, window_encodeWords inside, Nat.mod_eq_of_lt small]

/-- The callee reads the bytes whose length is the last word. -/
theorem dynamicArgument_encodeCall (selector : ℕ) (front : List ℕ) (data rest : List Byte)
    (index : ℕ) (inside : index < front.length) (fits : data.length < 256 ^ 32)
    (place : front[index] = 32 * front.length) (small : 32 * front.length < 256 ^ 32) :
    dynamicArgument (encodeCall selector (front ++ [data.length]) ++ (data ++ rest)) index = data := by
  have start : argument (encodeCall selector (front ++ [data.length]) ++ (data ++ rest)) index
      = 32 * front.length := by
    rw [argument_encodeCall (by simp; omega)] <;> rw [List.getElem_append_left inside, place]
    exact small
  have count : argument (encodeCall selector (front ++ [data.length]) ++ (data ++ rest)) front.length
      = data.length := by
    rw [argument_encodeCall (by simp)]
    · simp
    · simpa using fits
  rw [argument] at count
  have length : (encodeCall selector (front ++ [data.length])).length = 4 + 32 * front.length + 32 := by
    rw [length_encodeCall, List.length_append, List.length_singleton]
    ring
  rw [dynamicArgument, start, count]
  refine List.ext_getElem (by simp) fun place _ inside => ?_
  simp only [slice, List.getElem_map, List.getElem_range]
  rw [byteAt_append_right (by omega), byteAt_append_left (by omega), length,
    Nat.add_sub_cancel_left, byteAt, List.getD_eq_getElem?_getD, List.getElem?_eq_getElem inside,
    Option.getD_some]

end Encoding

end Sando.Evm
