/-
Checked arithmetic.

Results and conversions that are given up where the word is too small for them. A computation on natural
numbers checks each of its results with `checked`, one on words with `checkedWord`.
-/

import Sando.Evm.Bytes

namespace Sando.Evm

variable {value : ℕ} {word : Word}

/-- A number that fits 256 bits. -/
def checked (value : ℕ) : Option ℕ := if value < 2 ^ 256 then some value else none

/-- A number that fits 256 bits, as a word. -/
def checkedWord (value : ℕ) : Option Word := (checked value).map (BitVec.ofNat 256)

/-- A word that fits 64 bits. -/
def asU64 (word : Word) : Option (BitVec 64) :=
  if word.toNat < 2 ^ 64 then some (word.setWidth 64) else none

theorem checked_of_lt (small : value < 2 ^ 256) : checked value = some value := if_pos small

theorem checked_eq_some {result : ℕ} (fits : checked value = some result) :
    result = value ∧ value < 2 ^ 256 := by
  unfold checked at fits
  split_ifs at fits with small
  exact ⟨(Option.some.inj fits).symm, small⟩

theorem checkedWord_of_lt (small : value < 2 ^ 256) :
    checkedWord value = some (BitVec.ofNat 256 value) := by
  rw [checkedWord, checked_of_lt small, Option.map_some]

theorem checkedWord_eq_some (fits : checkedWord value = some word) :
    word.toNat = value ∧ value < 2 ^ 256 := by
  obtain ⟨result, kept, rfl⟩ := Option.map_eq_some_iff.mp fits
  obtain ⟨rfl, small⟩ := checked_eq_some kept
  exact ⟨toNat_ofNat_of_lt small, small⟩

theorem asU64_of_lt (small : word.toNat < 2 ^ 64) : asU64 word = some (word.setWidth 64) := if_pos small

theorem asU64_eq_some {number : BitVec 64} (converted : asU64 word = some number) :
    number = word.setWidth 64 := by
  unfold asU64 at converted
  split_ifs at converted
  exact (Option.some.inj converted).symm

end Sando.Evm
