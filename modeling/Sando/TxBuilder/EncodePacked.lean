/-
Packed payloads.

`encodePacked` concatenates tokens without padding; a number is cut to its last bytes. Numbers are
`U256` words. A payload is read back field by field with `window_field` and its variants.
-/

import Sando.Evm.Abi

namespace Sando.TxBuilder

open Sando.Evm

/-- How many bits of a number are kept. A word has no more than 256. -/
structure TakeLastXBytes where
  bits : ℕ
  fits : bits ≤ 256 := by decide

theorem fits_8 : 8 ≤ 256 := by decide

theorem fits_32 : 32 ≤ 256 := by decide

theorem fits_40 : 40 ≤ 256 := by decide

/-- A value of a packed payload. -/
inductive PackedToken
  | string (text : String)
  | address (address : Address)
  | bytes (bytes : List Byte)
  | bool (value : Bool)
  | number (number : Word)
  | numberWithShift (number : Word) (toTake : TakeLastXBytes)

/-- Pack a single token into bytes. -/
def pack : PackedToken → List Byte
  | .string text => text.toUTF8.data.toList.map UInt8.toBitVec
  | .address address => bigEndian 20 address.toNat
  | .bytes bytes => bytes
  | .bool value => if value then [1] else [0]
  | .number number => bigEndian 32 number.toNat
  | .numberWithShift number toTake =>
    (bigEndian 32 number.toNat).drop (32 - toTake.bits / 8)

/-- Pack tokens, one behind the other. -/
def encodePacked (items : List PackedToken) : List Byte := items.flatMap pack

/-- A number that is not a word yet. -/
def packed (value : ℕ) (toTake : TakeLastXBytes) : PackedToken :=
  .numberWithShift (BitVec.ofNat 256 value) toTake

section Packing

variable {items : List PackedToken}

@[simp] theorem encodePacked_nil : encodePacked [] = [] := rfl

@[simp] theorem encodePacked_cons (item : PackedToken) (items : List PackedToken) :
    encodePacked (item :: items) = pack item ++ encodePacked items := rfl

@[simp] theorem pack_address (address : Address) :
    pack (.address address) = bigEndian 20 address.toNat := rfl

@[simp] theorem pack_bytes (bytes : List Byte) : pack (.bytes bytes) = bytes := rfl

/-- A number is cut to its last bytes. -/
@[simp] theorem pack_numberWithShift (number : Word) (toTake : TakeLastXBytes) :
    pack (.numberWithShift number toTake) = bigEndian (toTake.bits / 8) number.toNat := by
  obtain ⟨bits, fits⟩ := toTake
  have width : 32 = (32 - bits / 8) + bits / 8 := by omega
  have split := bigEndian_add (32 - bits / 8) (bits / 8) number.toNat
  rw [← width] at split
  rw [pack, split, List.drop_append_of_le_length (by simp), List.drop_of_length_le (by simp),
    List.nil_append]

@[simp] theorem pack_packed (value : ℕ) (toTake : TakeLastXBytes) :
    pack (packed value toTake) = bigEndian (toTake.bits / 8) value := by
  have width : 256 ^ (toTake.bits / 8) ∣ 2 ^ 256 := by
    have narrow := toTake.fits
    rw [show (2 : ℕ) ^ 256 = 256 ^ 32 by norm_num]
    exact pow_dvd_pow 256 (by omega)
  rw [packed, pack_numberWithShift, bigEndian_inj, BitVec.toNat_ofNat, Nat.mod_mod_of_dvd _ width]

end Packing

/-! ### Reading fields -/

section Fields

variable {front back : List Byte} {offset count value : ℕ}

/-- The first field of a payload. -/
theorem window_field (small : value < 256 ^ count) :
    window (byteAt (bigEndian count value ++ back)) 0 count = value := by
  rw [window_append_left (by simp), window_bigEndian, Nat.mod_eq_of_lt small]

/-- The last field of a payload, read as a whole word. -/
theorem window_last_field (small : value < 256 ^ count) (fits : count ≤ 32) :
    window (byteAt (bigEndian count value)) 0 32 = value * 256 ^ (32 - count) := by
  have split := window_add (byteAt (bigEndian count value)) 0 count (32 - count)
  have behind : window (byteAt (bigEndian count value)) (0 + count) (32 - count) = 0 :=
    window_past_end (by simp)
  rw [show count + (32 - count) = 32 by omega, behind, window_bigEndian, Nat.mod_eq_of_lt small,
    Nat.add_zero] at split
  exact split

end Fields

end Sando.TxBuilder
