/-
Quotes of V2 pairs.

`getAmountOutEvmV2` reads the reserves of a pair and applies the formula of the router, with its factors
997 and 1000. The result is what `BrainDance` computes for the same reserves, and it is the greatest
output that the pair lets through for the amount (`getAmountOutEvmV2_isOptimum`); the rounded amounts that
the slices ask for are below it. The pair itself is a parameter: it answers `getReserves`, and `PassesK` is
the check of its `swap`.
-/

import Sando.Curve.ConstantProduct
import Sando.Simulate.Evm
import Sando.TxBuilder.Amounts

namespace Sando.Cfmm

open Sando.Evm Sando.Curve Sando.Program Sando.Simulate Sando.TxBuilder

/-! ### The contract -/

namespace SafeMath

/-- An addition that reverts when it overflows. -/
def add (x y : Word) : Option Word := if x.toNat + y.toNat < 2 ^ 256 then some (x + y) else none

/-- A multiplication that reverts when it overflows. -/
def mul (x y : Word) : Option Word := if x.toNat * y.toNat < 2 ^ 256 then some (x * y) else none

section Safe

variable {x y : Word} {first second : ℕ}

theorem add_eq (left : x.toNat = first) (right : y.toNat = second)
    (bounded : first + second < 2 ^ 256) : add x y = some (BitVec.ofNat 256 (first + second)) := by
  subst left right
  rw [add, if_pos bounded]
  rfl

theorem mul_eq (left : x.toNat = first) (right : y.toNat = second)
    (bounded : first * second < 2 ^ 256) : mul x y = some (BitVec.ofNat 256 (first * second)) := by
  subst left right
  have product : x * y = BitVec.ofNat 256 (x.toNat * y.toNat) := by
    apply BitVec.eq_of_toNat_eq
    rw [BitVec.toNat_mul, BitVec.toNat_ofNat]
  rw [mul, if_pos bounded, product]

end Safe

end SafeMath

namespace BrainDance

/-- The reserves of the input and of the output. -/
def sortReserves (inputToken outputToken : Address) (reserve0 reserve1 : ℕ) : ℕ × ℕ :=
  if inputToken < outputToken then (reserve0, reserve1) else (reserve1, reserve0)

/-- `_getAmountOut`; `none` is a revert. -/
def getAmountOut (amountIn reserveIn reserveOut : Word) : Option Word := do
  if amountIn = 0 then none -- INSUFFICIENT_INPUT_AMOUNT
  if reserveIn = 0 ∨ reserveOut = 0 then none -- INSUFFICIENT_LIQUIDITY
  let amountInWithFee ← SafeMath.mul amountIn 997
  let numerator ← SafeMath.mul amountInWithFee reserveOut
  let scaled ← SafeMath.mul reserveIn 1000
  let denominator ← SafeMath.add scaled amountInWithFee
  some (numerator / denominator)

end BrainDance

/-- The check of a pair behind a swap, for a transfer of `amountIn` that was not taxed. -/
def PassesK (reserveIn reserveOut amountIn output : ℕ) : Prop :=
  reserveIn * reserveOut * 1000 ^ 2
    ≤ ((reserveIn + amountIn) * 1000 - 3 * amountIn) * (reserveOut - output) * 1000

instance (reserveIn reserveOut amountIn output : ℕ) :
    Decidable (PassesK reserveIn reserveOut amountIn output) := Nat.decLe _ _

/-- The check of the pair keeps the product, with a share of 997 in 1000. -/
theorem passesK_iff {reserveIn reserveOut amountIn output : ℕ} :
    PassesK reserveIn reserveOut amountIn output
      ↔ KeepsProduct 997 1000 reserveIn reserveOut amountIn output := by
  have adjusted : (reserveIn + amountIn) * 1000 - 3 * amountIn
      = reserveIn * 1000 + amountIn * 997 := by omega
  have scaled : reserveIn * reserveOut * 1000 ^ 2 = reserveIn * reserveOut * 1000 * 1000 := by ring
  unfold PassesK KeepsProduct
  rw [adjusted, scaled]
  exact Nat.mul_le_mul_right_iff (by decide)

/-! ### The bounds -/

/-- Reserves and an amount of 112 bits. -/
structure Bounded (reserveIn reserveOut amountIn : ℕ) : Prop where
  inside : 0 < reserveIn
  outside : 0 < reserveOut
  amount : 0 < amountIn
  reserveIn_lt : reserveIn < 2 ^ 112
  reserveOut_lt : reserveOut < 2 ^ 112
  amountIn_lt : amountIn < 2 ^ 112

section Bounded

variable {reserveIn reserveOut amountIn : ℕ}

/-- No product and no sum of the formula is longer than 256 bits. -/
theorem Bounded.fits (bounded : Bounded reserveIn reserveOut amountIn) :
    amountIn * 997 < 2 ^ 256 ∧ amountIn * 997 * reserveOut < 2 ^ 256 ∧ reserveIn * 1000 < 2 ^ 256
      ∧ reserveIn * 1000 + amountIn * 997 < 2 ^ 256 := by
  have withFee : amountIn * 997 < 2 ^ 112 * 997 :=
    Nat.mul_lt_mul_of_pos_right bounded.amountIn_lt (by decide)
  have scaled : reserveIn * 1000 < 2 ^ 112 * 1000 :=
    Nat.mul_lt_mul_of_pos_right bounded.reserveIn_lt (by decide)
  have numerator : amountIn * 997 * reserveOut < 2 ^ 112 * 997 * 2 ^ 112 :=
    Nat.mul_lt_mul'' withFee bounded.reserveOut_lt
  exact ⟨withFee.trans (by norm_num), numerator.trans (by norm_num), scaled.trans (by norm_num),
    (Nat.add_lt_add scaled withFee).trans (by norm_num)⟩

end Bounded

/-! ### The quote -/

/-- The call of `getReserves`. -/
def getReserves (targetPool : Address) (tx : TxEnv) : TxEnv :=
  { tx with transactTo := targetPool, caller := getEthDev, value := 0, data := encodeCall 0x0902f1ac [] }

/-- The formula of the router, on words. -/
def quoteWord (reserveIn reserveOut amountIn : ℕ) : Word :=
  BitVec.ofNat 256 (quote 997 1000 reserveIn reserveOut amountIn)

section Quote

variable {reserveIn reserveOut : ℕ} {amountIn : Word}

theorem toNat_quoteWord (bounded : Bounded reserveIn reserveOut amountIn.toNat) :
    (quoteWord reserveIn reserveOut amountIn.toNat).toNat
      = quote 997 1000 reserveIn reserveOut amountIn.toNat := by
  have below : quote 997 1000 reserveIn reserveOut amountIn.toNat < reserveOut :=
    quote_lt (Nat.mul_pos bounded.inside (by decide)) bounded.outside
  exact toNat_ofNat_of_lt (below.trans (bounded.reserveOut_lt.trans (by norm_num)))

/-- `BrainDance` computes the formula. -/
theorem braindance_getAmountOut (bounded : Bounded reserveIn reserveOut amountIn.toNat) :
    BrainDance.getAmountOut amountIn (BitVec.ofNat 256 reserveIn) (BitVec.ofNat 256 reserveOut)
      = some (quoteWord reserveIn reserveOut amountIn.toNat) := by
  obtain ⟨withFee, numerator, scaled, denominator⟩ := bounded.fits
  have inFits : reserveIn < 2 ^ 256 := bounded.reserveIn_lt.trans (by norm_num)
  have outFits : reserveOut < 2 ^ 256 := bounded.reserveOut_lt.trans (by norm_num)
  have amount : amountIn ≠ 0 := fun zero => by
    have positive := bounded.amount
    rw [zero] at positive
    exact absurd positive (by decide)
  have liquid : ¬ (BitVec.ofNat 256 reserveIn = 0 ∨ BitVec.ofNat 256 reserveOut = 0) := by
    rintro (zero | zero) <;> have zero := congrArg BitVec.toNat zero
    · rw [toNat_ofNat_of_lt inFits] at zero
      exact absurd bounded.inside (by rw [zero]; decide)
    · rw [toNat_ofNat_of_lt outFits] at zero
      exact absurd bounded.outside (by rw [zero]; decide)
  have first : SafeMath.mul amountIn 997 = some (BitVec.ofNat 256 (amountIn.toNat * 997)) :=
    SafeMath.mul_eq rfl rfl withFee
  have second : SafeMath.mul (BitVec.ofNat 256 (amountIn.toNat * 997)) (BitVec.ofNat 256 reserveOut)
      = some (BitVec.ofNat 256 (amountIn.toNat * 997 * reserveOut)) :=
    SafeMath.mul_eq (toNat_ofNat_of_lt withFee) (toNat_ofNat_of_lt outFits) numerator
  have third : SafeMath.mul (BitVec.ofNat 256 reserveIn) 1000
      = some (BitVec.ofNat 256 (reserveIn * 1000)) :=
    SafeMath.mul_eq (toNat_ofNat_of_lt inFits) rfl scaled
  have fourth : SafeMath.add (BitVec.ofNat 256 (reserveIn * 1000))
      (BitVec.ofNat 256 (amountIn.toNat * 997))
      = some (BitVec.ofNat 256 (reserveIn * 1000 + amountIn.toNat * 997)) :=
    SafeMath.add_eq (toNat_ofNat_of_lt scaled) (toNat_ofNat_of_lt withFee) denominator
  have quotient : BitVec.ofNat 256 (amountIn.toNat * 997 * reserveOut)
      / BitVec.ofNat 256 (reserveIn * 1000 + amountIn.toNat * 997)
      = quoteWord reserveIn reserveOut amountIn.toNat := by
    apply BitVec.eq_of_toNat_eq
    rw [BitVec.toNat_udiv, toNat_ofNat_of_lt numerator, toNat_ofNat_of_lt denominator,
      toNat_quoteWord bounded]
    rfl
  unfold BrainDance.getAmountOut
  simp only [if_neg amount, if_neg liquid, first, second, third, fourth, Option.bind_eq_bind,
    Option.bind_some, quotient]

variable {setup : Setup} {targetPool tokenIn tokenOut : Address} {reserve0 reserve1 timestamp : ℕ}
  {gasUsed : ℕ} {state : State}

/-- The words of the answer, sorted, are the reserves of the input and of the output. -/
theorem sorted_words (timestamp : ℕ)
    (reserves : BrainDance.sortReserves tokenIn tokenOut reserve0 reserve1 = (reserveIn, reserveOut))
    (bounded : Bounded reserveIn reserveOut amountIn.toNat) :
    window (byteAt (encodeWords [reserve0, reserve1, timestamp])) 0 32 = reserve0
    ∧ window (byteAt (encodeWords [reserve0, reserve1, timestamp])) 32 32 = reserve1 := by
  have small : reserve0 < 2 ^ 112 ∧ reserve1 < 2 ^ 112 := by
    unfold BrainDance.sortReserves at reserves
    split_ifs at reserves <;> cases reserves
    · exact ⟨bounded.reserveIn_lt, bounded.reserveOut_lt⟩
    · exact ⟨bounded.reserveOut_lt, bounded.reserveIn_lt⟩
  have wide : (2 : ℕ) ^ 112 < 256 ^ 32 := by norm_num
  exact ⟨window_word 0 rfl (small.1.trans wide), window_word 1 rfl (small.2.trans wide)⟩

theorem getAmountOutEvmV2_eq
    (reserves : BrainDance.sortReserves tokenIn tokenOut reserve0 reserve1 = (reserveIn, reserveOut))
    (bounded : Bounded reserveIn reserveOut amountIn.toNat)
    (answered : setup.backend.answer
        (state.ran ++ [⟨.transactRef, .quote, getReserves targetPool state.tx⟩])
      = .success (encodeWords [reserve0, reserve1, timestamp]) gasUsed) :
    setup.getAmountOutEvmV2 amountIn targetPool tokenIn tokenOut state
      = .ok (quoteWord reserveIn reserveOut amountIn.toNat)
        { state with
          tx := getReserves targetPool state.tx
          ran := state.ran ++ [⟨.transactRef, .quote, getReserves targetPool state.tx⟩] } := by
  obtain ⟨withFee, numerator, scaled, denominator⟩ := bounded.fits
  obtain ⟨word0, word1⟩ := sorted_words timestamp reserves bounded
  have long : ¬ (encodeWords [reserve0, reserve1, timestamp]).length < 96 := by simp
  have sorted : (if tokenIn < tokenOut then (reserve0, reserve1) else (reserve1, reserve0))
      = (reserveIn, reserveOut) := reserves
  have asked := setup.query_eq { state with tx := getReserves targetPool state.tx } answered
  unfold Setup.getAmountOutEvmV2
  show (setup.query .quote >>= _) { state with tx := getReserves targetPool state.tx } = _
  rw [bind_apply, asked]
  simp only [if_neg long, word0, word1, sorted, u256_of_lt withFee, u256_of_lt numerator,
    u256_of_lt scaled, u256_of_lt denominator, pure_bind, toNat_ofNat_of_lt withFee,
    toNat_ofNat_of_lt numerator, toNat_ofNat_of_lt scaled, toNat_ofNat_of_lt denominator]
  rfl

/-! ### The optimum -/

variable (reserveIn reserveOut amountIn) in
/-- A value is the output of a swap as the contract computes it, the greatest one that the pair lets
through; and so are the rounded amounts that are asked for. -/
structure IsOptimum (value : Word) : Prop where
  braindance : BrainDance.getAmountOut amountIn (BitVec.ofNat 256 reserveIn)
    (BitVec.ofNat 256 reserveOut) = some value
  below : value.toNat < reserveOut
  passes_iff : ∀ output, PassesK reserveIn reserveOut amountIn.toNat output ↔ output ≤ value.toNat
  greatest : IsGreatest {output | PassesK reserveIn reserveOut amountIn.toNat output} value.toNat
  frontrun : ∀ isWethInput intermediaryAddress, ∃ requested,
    V2.decodeIntermediary value.toNat isWethInput intermediaryAddress = some requested
    ∧ PassesK reserveIn reserveOut amountIn.toNat requested
  backrun : PassesK reserveIn reserveOut amountIn.toNat (encodeWeth value.toNat)

theorem quoteWord_isOptimum (bounded : Bounded reserveIn reserveOut amountIn.toNat) :
    IsOptimum reserveIn reserveOut amountIn (quoteWord reserveIn reserveOut amountIn.toNat) := by
  have inside : 0 < reserveIn * 1000 := Nat.mul_pos bounded.inside (by decide)
  have value := toNat_quoteWord bounded
  have passes : ∀ output, PassesK reserveIn reserveOut amountIn.toNat output
      ↔ output ≤ (quoteWord reserveIn reserveOut amountIn.toNat).toNat := by
    intro output
    rw [passesK_iff, keepsProduct_iff inside bounded.outside, value]
  have below : (quoteWord reserveIn reserveOut amountIn.toNat).toNat < reserveOut := by
    rw [value]
    exact quote_lt inside bounded.outside
  refine ⟨braindance_getAmountOut bounded, below, passes, ?_, fun isWethInput intermediaryAddress => ?_,
    (passes _).mpr encodeWeth_le⟩
  · have same : {output | PassesK reserveIn reserveOut amountIn.toNat output}
        = {output | KeepsProduct 997 1000 reserveIn reserveOut amountIn.toNat output} := by
      ext output
      exact passesK_iff
    rw [same, value]
    exact isGreatest_quote inside bounded.outside
  · obtain ⟨encoded, found⟩ := (V2.fourBytes isWethInput
      (getWethAddress < intermediaryAddress)).complete
        (below.trans (bounded.reserveOut_lt.trans (by norm_num)))
    have rounded := ((V2.fourBytes _ _).encodes found).decode_eq
    refine ⟨encoded.decode, ?_, (passes _).mpr (rounded.trans_le Mantissa.truncate_le)⟩
    have encodes : V2.encodeFourBytes _ isWethInput (getWethAddress < intermediaryAddress)
      = some encoded := found
    rw [V2.decodeIntermediary, encodes]
    rfl

/-- The quote of a pair is the optimum for its reserves. -/
theorem getAmountOutEvmV2_isOptimum
    (reserves : BrainDance.sortReserves tokenIn tokenOut reserve0 reserve1 = (reserveIn, reserveOut))
    (bounded : Bounded reserveIn reserveOut amountIn.toNat)
    (answered : setup.backend.answer
        (state.ran ++ [⟨.transactRef, .quote, getReserves targetPool state.tx⟩])
      = .success (encodeWords [reserve0, reserve1, timestamp]) gasUsed) :
    ∃ value after, setup.getAmountOutEvmV2 amountIn targetPool tokenIn tokenOut state = .ok value after
      ∧ IsOptimum reserveIn reserveOut amountIn value :=
  ⟨_, _, getAmountOutEvmV2_eq reserves bounded answered, quoteWord_isOptimum bounded⟩

/-- The pair of USDC and WETH, which answers nothing but its reserves. -/
def pairSetup : Setup where
  backend :=
    ⟨fun ran => match ran.getLast? with
      | some last =>
        if last.tx.data = encodeCall 0x0902f1ac [] then
          .success (encodeWords [24000000000000, 13000000000000000000000, 1681000000]) 30000
        else .evmError
      | none => .evmError, fun _ => [], fun _ => true⟩
  nextBlock := ⟨17000000, 30000000000⟩
  keccak := fun _ => 0
  searcher := 1
  sandwichContract := 2

theorem getAmountOutEvmV2_isOptimum_usdc : ∃ value after,
    pairSetup.getAmountOutEvmV2 1000000000000000000 0xB4e16d0168e52d35CaCD2c6185b44281Ec28C9Dc
      getWethAddress 0xA0b86991c6218b36c1d19D4a2e9Eb0cE3606eB48 .initial = .ok value after
    ∧ IsOptimum 13000000000000000000000 24000000000000 1000000000000000000 value := by
  have reserves : BrainDance.sortReserves getWethAddress 0xA0b86991c6218b36c1d19D4a2e9Eb0cE3606eB48
      24000000000000 13000000000000000000000 = (13000000000000000000000, 24000000000000) := by decide
  exact getAmountOutEvmV2_isOptimum reserves
    ⟨by decide, by decide, by decide, by decide, by decide, by decide⟩ rfl

end Quote

end Sando.Cfmm
