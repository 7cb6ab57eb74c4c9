/-
What the payload builders share.

The main part encodes an amount into a few bytes and a byte shift.

The encoders divide an amount by growing powers of 256 until the quotient fits. The power is a
128-bit integer, so that the sixteenth round does not exist: `2u128.pow(128)` panics, and `none`
models every panic. `findShift_spec` says which quotient the loop finds and `findShift_isSome` when it
finds one.
-/

import Sando.Evm.Abi

namespace Sando.TxBuilder

open Sando.Evm

/-- The address of wrapped ether. -/
def getWethAddress : Address := 0xC02aaA39b223FE8D0A0e5C4F27eAD9083C756Cc2

/-- The divisor of the call value, which carries a WETH amount. -/
def getWethEncodeDivisor : ℕ := 4294967296

/-- The label that ends a payload of several swaps. -/
def getEndOfMultiPayload : Byte := 37

/-- The label of `prepare_stack`. -/
def getPrepareStackPayload : Byte := 94

/-- Round a WETH amount to what the call value carries. -/
def encodeWeth (amountIn : ℕ) : ℕ := amountIn / getWethEncodeDivisor * getWethEncodeDivisor

theorem encodeWeth_le {amount : ℕ} : encodeWeth amount ≤ amount := Nat.div_mul_le_self _ _

/-- An encoded amount, its offset in memory and its byte shift. -/
structure EncodedSwapValue where
  encodedValue : ℕ
  memOffset : ℕ
  byteShift : ℕ
  deriving DecidableEq, Repr

/-- The value after applying the byte shift. -/
def EncodedSwapValue.decode (encoded : EncodedSwapValue) : ℕ :=
  encoded.encodedValue * 2 ^ (8 * encoded.byteShift)

/-- A liquidity pool. -/
structure Pool where
  address : Address
  token0 : Address
  token1 : Address
  swapFee : Word

/-- The loop the encoders share, from round `i` on: the quotient and the shift of the first round
whose quotient fits. A loop that runs out of rounds leaves the initial zeros. -/
def searchShift (fits : ℕ → Bool) (amount : ℕ) : ℕ → ℕ → Option (ℕ × ℕ)
  | 0, _ => some (0, 0)
  | rounds + 1, i =>
    if 128 ≤ 8 * i then none
    else if fits (amount / 2 ^ (8 * i)) then some (amount / 2 ^ (8 * i), i)
    else searchShift fits amount rounds (i + 1)

/-- The loop of the encoders, `for i in 0u8..32u8`. -/
def findShift (fits : ℕ → Bool) (amount : ℕ) : Option (ℕ × ℕ) :=
  searchShift fits amount 32 0

section Search

variable {fits : ℕ → Bool} {amount value shift : ℕ}

/-- What the loop finds is the first quotient that fits. -/
theorem searchShift_spec {rounds i : ℕ} (bound : i + rounds = 32) (early : i ≤ 16)
    (below : ∀ earlier, earlier < i → fits (amount / 256 ^ earlier) = false)
    (found : searchShift fits amount rounds i = some (value, shift)) :
    shift ≤ 15 ∧ value = amount / 256 ^ shift ∧ fits value = true
      ∧ ∀ earlier, earlier < shift → fits (amount / 256 ^ earlier) = false := by
  induction rounds generalizing i with
  | zero => omega
  | succ rounds ih =>
    rw [searchShift, two_pow_eight_mul] at found
    by_cases late : 128 ≤ 8 * i
    · simp [late] at found
    rw [if_neg late] at found
    by_cases fitting : fits (amount / 256 ^ i) = true
    · rw [if_pos fitting] at found
      obtain ⟨rfl, rfl⟩ := Prod.mk.inj (Option.some.inj found)
      exact ⟨by omega, rfl, fitting, below⟩
    · rw [if_neg fitting] at found
      refine ih (by omega) (by omega) (fun earlier before => ?_) found
      rcases Nat.lt_succ_iff_lt_or_eq.mp before with strictly | rfl
      · exact below earlier strictly
      · exact Bool.eq_false_iff.mpr fitting

/-- The loop finds a quotient when some early one fits. -/
theorem searchShift_isSome {rounds i late : ℕ} (order : i ≤ late) (small : late ≤ 15)
    (enough : late < i + rounds) (fitting : fits (amount / 256 ^ late) = true) :
    (searchShift fits amount rounds i).isSome := by
  induction rounds generalizing i with
  | zero => omega
  | succ rounds ih =>
    rw [searchShift, if_neg (by omega), two_pow_eight_mul]
    by_cases now : fits (amount / 256 ^ i) = true
    · rw [if_pos now]
      rfl
    · rw [if_neg now]
      have later : i ≠ late := by
        rintro rfl
        exact now fitting
      exact ih (by omega) (by omega)

theorem findShift_spec (found : findShift fits amount = some (value, shift)) :
    shift ≤ 15 ∧ value = amount / 256 ^ shift ∧ fits value = true
      ∧ ∀ earlier, earlier < shift → fits (amount / 256 ^ earlier) = false :=
  searchShift_spec rfl (by norm_num) (fun _ before => absurd before (Nat.not_lt_zero _)) found

theorem findShift_isSome (fits : ℕ → Bool) {late : ℕ} (small : late ≤ 15)
    (fitting : fits (amount / 256 ^ late) = true) : (findShift fits amount).isSome :=
  searchShift_isSome (Nat.zero_le late) small (by omega) fitting

end Search

/-- The value of an encoding after decoding. -/
theorem EncodedSwapValue.decode_eq (encoded : EncodedSwapValue) :
    encoded.decode = encoded.encodedValue * 256 ^ encoded.byteShift := by
  rw [EncodedSwapValue.decode, two_pow_eight_mul]

end Sando.TxBuilder
