/-
The helper of the contract's tests.

`MevHelper` packs the swaps of a chain with the amounts that the routers quote. The contract performs
what it packs (`helper_chain_performs`): whatever the quotes are, however V2 and V3 swaps are mixed and
whatever the pools answer, the calls are those of the quoted amounts, each rounded down to the bytes it
is packed in, up to the first swap that is not accepted. `Trade` says what that means without a byte of
calldata; each builder packs a segment that means its trade (`Packs`), and the run is an induction on
the swaps.
-/

import Sando.Huff.Chain
import Sando.RoundTrip.Amounts

namespace Sando.RoundTrip

open Sando.Evm Sando.Evm.Context Sando.Huff

/-! ### The labels -/

/-- The names of the handlers, in the order of the helper. -/
def functionNames : List Handler :=
  [.v2InputSingle, .v2Output0Single, .v2Output1Single, .v3Input0, .v3Input1, .v3Output0, .v3Output1,
    .v2InputMultiFirst, .v2InputMultiNext, .v2OutputMultiFirst, .v2OutputMultiNext, .prepareStack,
    .v3Input0Multi, .v3Input1Multi, .v3Output0Multi, .v3Output1Multi, .arbitrageWethInput,
    .arbitrageV2SwapToOther, .arbitrageV2SwapToThis, .seppuku, .recoverWeth, .depositWeth]

/-- The jump label of a handler. -/
def functionSigsToJumpLabel (name : Handler) : ℕ := (0x30 + 0x05 * functionNames.idxOf name) % 256

theorem functionSigsToJumpLabel_eq (name : Handler) :
    functionSigsToJumpLabel name = 0x30 + 5 * name.index := by
  cases name <;> decide

/-! ### The quotes -/

/-- What the helper asks of contracts that it does not bring along; a call may revert. -/
structure Onchain where
  getPair : Address → Address → Address → Option Address
  getReserves : Address → Option (Word × Word)
  getAmountOut : Word → Word → Word → Option Word
  quoteExactInputSingle : Address → Address → BitVec 24 → Word → BitVec 160 → Option Word

namespace Onchain

variable (onchain : Onchain)

/-- The pair of two tokens. -/
def getV2Pair (tokenA tokenB factory : Address) : Option Address := onchain.getPair factory tokenA tokenB

/-- What a V2 pair gives for an amount. -/
def getAmountOutV2 (inputToken outputToken factory : Address) (amountIn : Word) : Option Word := do
  let (reserveToken0, reserveToken1) ←
    onchain.getReserves (← onchain.getV2Pair inputToken outputToken factory)
  let (reserveIn, reserveOut) :=
    if inputToken < outputToken then (reserveToken0, reserveToken1) else (reserveToken1, reserveToken0)
  onchain.getAmountOut amountIn reserveIn reserveOut

/-- What a V3 pool gives for an amount. -/
def getAmountOutV3 (amountIn : Word) (tokenIn tokenOut : Address) (fee : BitVec 24) : Option Word :=
  let sqrtPriceLimitX96 : BitVec 160 :=
    if tokenIn < tokenOut then 4295128749
    else 1461446703485210103287273052203988822378723970341
  onchain.quoteExactInputSingle tokenIn tokenOut fee amountIn sqrtPriceLimitX96

end Onchain

/-! ### The builders -/

/-- The divisor of amounts of WETH. -/
def wethEncodeMultiple : ℕ := 0x100000000

/-- The factory of the V2 pairs. -/
def univ2Factory : Address := 0x5C69bEe701ef814a2B6a3EDD4B1652CB9cc5aA6f

/-- The hash of a pool key. -/
def pairInitHash (keccak : List Byte → Word) (inputToken outputToken : Address) (fee : BitVec 24) :
    Word :=
  let (token0, token1) :=
    if inputToken < outputToken then (inputToken, outputToken) else (outputToken, inputToken)
  keccak (encodeWords [token0.toNat, token1.toNat, fee.toNat])

/-- The label of a V2 swap. -/
def v2FindFunctionSig (isMultimeat isFirstOfPayload isWethInput : Bool) (otherToken : Address) : ℕ :=
  if isWethInput then
    if isMultimeat then
      if isFirstOfPayload then functionSigsToJumpLabel .v2InputMultiFirst
      else functionSigsToJumpLabel .v2InputMultiNext
    else functionSigsToJumpLabel .v2InputSingle
  else if isMultimeat then
    if isFirstOfPayload then functionSigsToJumpLabel .v2OutputMultiFirst
    else functionSigsToJumpLabel .v2OutputMultiNext
  else if wethAddress < otherToken then functionSigsToJumpLabel .v2Output0Single
  else functionSigsToJumpLabel .v2Output1Single

/-- The label of a V3 swap. -/
def v3FindSwapType (isMultimeat isWethInput : Bool) (inputToken outputToken : Address) : ℕ :=
  if isWethInput then
    if inputToken < outputToken then
      if isMultimeat then functionSigsToJumpLabel .v3Input0Multi
      else functionSigsToJumpLabel .v3Input0
    else if isMultimeat then functionSigsToJumpLabel .v3Input1Multi
    else functionSigsToJumpLabel .v3Input1
  else if inputToken < outputToken then
    if isMultimeat then functionSigsToJumpLabel .v3Output1Multi
    else functionSigsToJumpLabel .v3Output1
  else if isMultimeat then functionSigsToJumpLabel .v3Output0Multi
  else functionSigsToJumpLabel .v3Output0

section Builders

variable (keccak : List Byte → Word) (onchain : Onchain)

/-- Buy on a V2 pair. -/
def v2CreateSandwichMultiPayloadWethIsInput (otherToken : Address) (amountIn : Word)
    (isFirstOfPayload : Bool) : Option (List Byte × Word) := do
  let pair ← onchain.getPair univ2Factory wethAddress otherToken
  let amountInActual := BitVec.ofNat 256 (amountIn.toNat / wethEncodeMultiple * wethEncodeMultiple)
  let amountOut ← onchain.getAmountOutV2 wethAddress otherToken univ2Factory amountInActual
  let (encodedAmountOut, encodedByteShift, _) := encodeNumToByteAndOffsetV2 amountOut.toNat 4
  let encodedAmountIn := amountIn.toNat / wethEncodeMultiple
  let swapType := v2FindFunctionSig true isFirstOfPayload true otherToken
  let memoryOffsetOut :=
    if wethAddress < otherToken then 68 - 4 - encodedByteShift else 36 - 4 - encodedByteShift
  if isFirstOfPayload then
    some (bigEndian 1 swapType ++ bigEndian 1 memoryOffsetOut ++ bigEndian 20 pair.toNat
      ++ bigEndian 4 encodedAmountOut, BitVec.ofNat 256 encodedAmountIn)
  else
    some (bigEndian 1 swapType ++ bigEndian 1 memoryOffsetOut ++ bigEndian 20 pair.toNat
      ++ bigEndian 4 encodedAmountOut ++ bigEndian 5 encodedAmountIn, 0)

/-- Sell on a V2 pair, one encoded unit less. -/
def v2CreateSandwichMultiPayloadWethIsOutput (otherToken : Address) (amountIn : Word)
    (isFirstOfPayload : Bool) : Option (List Byte × Word) := do
  let pair ← onchain.getPair univ2Factory wethAddress otherToken
  let (encodedAmount, encodedByteShiftIn, _) := encodeNumToByteAndOffsetV2 amountIn.toNat 4
  -- the subtraction is checked
  guard (1 ≤ encodedAmount)
  let encodedAmountIn := encodedAmount - 1
  let amountInActual := BitVec.ofNat 256 (encodedAmountIn * 2 ^ (encodedByteShiftIn * 8))
  let amountOut ← onchain.getAmountOutV2 otherToken wethAddress univ2Factory amountInActual
  let (encodedAmountOut, encodedByteShiftOut, _) := encodeNumToByteAndOffsetV2 amountOut.toNat 5
  let memoryOffsetIn := 68 - encodedByteShiftIn - 4
  let memoryOffsetOut :=
    if wethAddress < otherToken then 68 - encodedByteShiftOut else 100 - encodedByteShiftOut
  let swapType := v2FindFunctionSig true isFirstOfPayload false otherToken
  if isFirstOfPayload then
    some (bigEndian 1 swapType ++ bigEndian 1 memoryOffsetIn ++ bigEndian 20 pair.toNat
      ++ bigEndian 20 otherToken.toNat ++ bigEndian 4 encodedAmountIn ++ bigEndian 1 memoryOffsetOut,
      BitVec.ofNat 256 encodedAmountOut)
  else
    some (bigEndian 1 swapType ++ bigEndian 1 memoryOffsetIn ++ bigEndian 20 pair.toNat
      ++ bigEndian 20 otherToken.toNat ++ bigEndian 4 encodedAmountIn ++ bigEndian 5 encodedAmountOut
      ++ bigEndian 1 memoryOffsetOut, 0)

/-- Buy on a V3 pool. -/
def v3CreateSandwichMultiMeatPayloadWethIsInput (pool inputToken outputToken : Address)
    (fee : BitVec 24) (amountIn : Word) (isFirstOfPayload : Bool) : Option (List Byte × Word) := do
  let start := if isFirstOfPayload then bigEndian 1 (functionSigsToJumpLabel .prepareStack) else []
  let (encodedAmountIn, encodedByteShiftIn, amountInActual, _) :=
    encodeNumToByteAndOffsetV3 amountIn.toNat 4
  let amountOut ← onchain.getAmountOutV3 (BitVec.ofNat 256 amountInActual) inputToken outputToken fee
  let (encodedAmountOut, encodedByteShiftOut, _, _) := encodeNumToByteAndOffsetV3 amountOut.toNat 5
  let swapType := v3FindSwapType true true inputToken outputToken
  some (start ++ bigEndian 1 swapType ++ bigEndian 20 pool.toNat
    ++ bigEndian 1 (encodedByteShiftIn * 8) ++ bigEndian 4 encodedAmountIn
    ++ bigEndian 1 (encodedByteShiftOut * 8) ++ bigEndian 5 encodedAmountOut
    ++ bigEndian 32 (pairInitHash keccak inputToken outputToken fee).toNat, 0)

/-- Sell on a V3 pool. -/
def v3CreateSandwichMultiMeatPayloadWethIsOutput (pool inputToken outputToken : Address)
    (fee : BitVec 24) (amountIn : Word) (isFirstOfPayload : Bool) : Option (List Byte × Word) := do
  let start := if isFirstOfPayload then bigEndian 1 (functionSigsToJumpLabel .prepareStack) else []
  let (encodedAmountIn, encodedByteShiftIn, amountInActual, _) :=
    encodeNumToByteAndOffsetV3 amountIn.toNat 5
  let amountOut ← onchain.getAmountOutV3 (BitVec.ofNat 256 amountInActual) inputToken outputToken fee
  let (encodedAmountOut, encodedByteShiftOut, _, _) := encodeNumToByteAndOffsetV3 amountOut.toNat 4
  let swapType := v3FindSwapType true false inputToken outputToken
  some (start ++ bigEndian 1 swapType ++ bigEndian 20 pool.toNat
    ++ bigEndian 1 (encodedByteShiftOut * 8) ++ bigEndian 4 encodedAmountOut
    ++ bigEndian 1 (encodedByteShiftIn * 8) ++ bigEndian 5 encodedAmountIn
    ++ bigEndian 20 inputToken.toNat
    ++ bigEndian 32 (pairInitHash keccak inputToken outputToken fee).toNat, 0)

end Builders

/-! ### Chains of meats -/

/-- A swap of a chain, as the tests list it. -/
inductive Meat
  | v2Input (intermediateToken : Address) (amountIn : Word)
  | v2Output (intermediateToken : Address) (amountIn : Word)
  | v3Input (pool outputToken : Address) (fee : BitVec 24) (amountIn : Word)
  | v3Output (pool inputToken : Address) (fee : BitVec 24) (amountIn : Word)

/-- The bytes of a meat and its part of the call value. -/
def Meat.payload (keccak : List Byte → Word) (onchain : Onchain) (isFirstOfPayload : Bool) :
    Meat → Option (List Byte × Word)
  | v2Input intermediateToken amountIn =>
    v2CreateSandwichMultiPayloadWethIsInput onchain intermediateToken amountIn isFirstOfPayload
  | v2Output intermediateToken amountIn =>
    v2CreateSandwichMultiPayloadWethIsOutput onchain intermediateToken amountIn isFirstOfPayload
  | v3Input pool outputToken fee amountIn =>
    v3CreateSandwichMultiMeatPayloadWethIsInput keccak onchain pool wethAddress outputToken fee
      amountIn isFirstOfPayload
  | v3Output pool inputToken fee amountIn =>
    v3CreateSandwichMultiMeatPayloadWethIsOutput keccak onchain pool inputToken wethAddress fee
      amountIn isFirstOfPayload

/-- The loop of the tests over their meats, the first of which is marked. -/
def packMeats (keccak : List Byte → Word) (onchain : Onchain) :
    Bool → List Meat → Option (List Byte × Word)
  | _, [] => some ([], 0)
  | isFirstOfPayload, meat :: meats => do
    let (subPayload, encodedValue) ← meat.payload keccak onchain isFirstOfPayload
    let (payload, callvalue) ← packMeats keccak onchain false meats
    some (subPayload ++ payload, encodedValue + callvalue)

/-! ### What they are for -/

/-- The calls of a swap, and the replies to the last of them that are good enough. -/
structure Trade where
  calls : List Event
  accepts : Reply → Bool

/-- Make the trades in order, up to the first one that is not accepted. -/
def performTrades (world : World) (events : List Event) : List Trade → Outcome
  | [] => ⟨.stop, events⟩
  | trade :: trades =>
    if trade.accepts (world.reply (events ++ trade.calls)) then
      performTrades world (events ++ trade.calls) trades
    else ⟨.revert, events ++ trade.calls⟩

/-- An amount, rounded down to so many leading bytes. -/
def amountAfterEncoding (amount : Word) (numBytes : ℕ) : ℕ :=
  (encodeNumToByteAndOffsetV2 amount.toNat numBytes).2.2

/-- An amount for a V2 pair, decreased by one unit of its four leading bytes. -/
def amountWithDust (amount : Word) : Option ℕ := do
  let (encodedAmount, encodedByteShift, _) := encodeNumToByteAndOffsetV2 amount.toNat 4
  guard (1 ≤ encodedAmount)
  some ((encodedAmount - 1) * 2 ^ (encodedByteShift * 8))

/-- WETH for a V2 pair. The call value holds all of it, a later segment the low five bytes of the
quotient. -/
def wethSpent (isFirstOfPayload : Bool) (amountIn : Word) : ℕ :=
  let encodedAmountIn := amountIn.toNat / wethEncodeMultiple
  (if isFirstOfPayload then encodedAmountIn else encodedAmountIn % 2 ^ 40) * wethEncodeMultiple

/-- A swap on a V3 pool: token 0 is sold for an exact amount, as long as it costs less than `spent`, and
token 1 is sold exactly, for at least `bought`. -/
def v3Trade (self pool inputToken : Address) (zeroForOne : Bool) (poolKeyHash : Word)
    (spent bought : ℕ) : Trade :=
  let amountSpecified := if zeroForOne then 0 - BitVec.ofNat 256 bought else BitVec.ofNat 256 spent
  let swap : V3Swap := ⟨pool, zeroForOne, amountSpecified, inputToken, poolKeyHash⟩
  { calls := [swap.call self]
    accepts := fun reply => reply.success &&
      let amount0 := swap.returned self reply.output
      if zeroForOne then amount0 < BitVec.ofNat 256 spent else BitVec.ofNat 256 bought < 1 - amount0 }

/-- What a meat is for, with the amounts of its quote. -/
def Meat.trade (keccak : List Byte → Word) (onchain : Onchain) (self : Address)
    (isFirstOfPayload : Bool) : Meat → Option Trade
  | v2Input intermediateToken amountIn => do
    let pair ← onchain.getPair univ2Factory wethAddress intermediateToken
    let amountOut ← onchain.getAmountOutV2 wethAddress intermediateToken univ2Factory
      (BitVec.ofNat 256 (amountIn.toNat / wethEncodeMultiple * wethEncodeMultiple))
    some ⟨v2Frontrun self pair (wethAddress < intermediateToken) (wethSpent isFirstOfPayload amountIn)
      (amountAfterEncoding amountOut 4), fun reply => reply.success⟩
  | v2Output intermediateToken amountIn => do
    let pair ← onchain.getPair univ2Factory wethAddress intermediateToken
    let sold ← amountWithDust amountIn
    let amountOut ← onchain.getAmountOutV2 intermediateToken wethAddress univ2Factory
      (BitVec.ofNat 256 sold)
    some ⟨v2Backrun self pair intermediateToken (wethAddress < intermediateToken) sold
      (amountAfterEncoding amountOut 5), fun reply => reply.success⟩
  | v3Input pool outputToken fee amountIn => do
    let spent := amountAfterEncoding amountIn 4
    let amountOut ← onchain.getAmountOutV3 (BitVec.ofNat 256 spent) wethAddress outputToken fee
    some (v3Trade self pool wethAddress (wethAddress < outputToken)
      (pairInitHash keccak wethAddress outputToken fee) spent (amountAfterEncoding amountOut 5))
  | v3Output pool inputToken fee amountIn => do
    let spent := amountAfterEncoding amountIn 5
    let amountOut ← onchain.getAmountOutV3 (BitVec.ofNat 256 spent) inputToken wethAddress fee
    some (v3Trade self pool inputToken (inputToken < wethAddress)
      (pairInitHash keccak inputToken wethAddress fee) spent (amountAfterEncoding amountOut 4))

/-- What a list of meats is for. -/
def tradeMeats (keccak : List Byte → Word) (onchain : Onchain) (self : Address) :
    Bool → List Meat → Option (List Trade)
  | _, [] => some []
  | isFirstOfPayload, meat :: meats => do
    let trade ← meat.trade keccak onchain self isFirstOfPayload
    let trades ← tradeMeats keccak onchain self false meats
    some (trade :: trades)

/-! ### Amounts of the helper -/

section Fields

variable {amount : Word} {count : ℕ}

/-- What is left of an amount is no more than the amount. -/
theorem helperLoop_le (positive : 0 < count) (narrow : count ≤ 32) :
    (helperLoop amount.toNat count).1 * 256 ^ (helperLoop amount.toNat count).2 ≤ amount.toNat := by
  rw [(helperLoop_spec positive narrow amount.isLt).2.1]
  exact Nat.div_mul_le_self _ _

theorem ofAmount_amount (positive : 0 < count) (narrow : count ≤ 32) :
    (Field.ofAmount amount count positive narrow).amount = amountAfterEncoding amount count := by
  have small := (helperLoop_le positive narrow).trans_lt amount.isLt
  rw [← two_pow_mul_eight] at small
  calc (Field.ofAmount amount count positive narrow).amount
      = (helperLoop amount.toNat count).1 * 2 ^ ((helperLoop amount.toNat count).2 * 8) := by
        rw [two_pow_mul_eight]
        rfl
    _ = amountAfterEncoding amount count := (Nat.mod_eq_of_lt small).symm

theorem dust_lt (amount : Word) : (helperLoop amount.toNat 4).1 - 1 < 256 ^ 4 :=
  (Nat.sub_le _ _).trans_lt (Field.ofAmount amount 4 (by norm_num) (by norm_num)).value_lt

theorem dust_room (amount : Word) : 4 + (helperLoop amount.toNat 4).2 ≤ 32 :=
  (Field.ofAmount amount 4 (by norm_num) (by norm_num)).room

/-- The field one unit below. -/
def dustField (amount : Word) : Field 4 where
  value := (helperLoop amount.toNat 4).1 - 1
  shift := (helperLoop amount.toNat 4).2
  value_lt := dust_lt amount
  room := dust_room amount

theorem dustField_amount :
    ((encodeNumToByteAndOffsetV2 amount.toNat 4).1 - 1)
        * 2 ^ ((encodeNumToByteAndOffsetV2 amount.toNat 4).2.1 * 8)
      = (dustField amount).amount := by
  rw [two_pow_mul_eight]
  rfl

theorem amountWithDust_eq (positive : 1 ≤ (encodeNumToByteAndOffsetV2 amount.toNat 4).1) :
    amountWithDust amount = some (dustField amount).amount := by
  simp only [amountWithDust, positive, guard_true, Option.pure_def, Option.bind_eq_bind,
    Option.bind_some, dustField_amount]

theorem taken_lt (amount : Word) : (helperLoop amount.toNat 5).1 < 256 ^ 5 :=
  (Field.ofAmount amount 5 (by norm_num) (by norm_num)).value_lt

theorem taken_shift_lt (amount : Word) : (helperLoop amount.toNat 5).2 < 32 := by
  have room : 5 + (helperLoop amount.toNat 5).2 ≤ 32 :=
    (Field.ofAmount amount 5 (by norm_num) (by norm_num)).room
  omega

theorem taken_fits (amount : Word) :
    (helperLoop amount.toNat 5).1 * 256 ^ (helperLoop amount.toNat 5).2 < 2 ^ 256 :=
  (helperLoop_le (by norm_num) (by norm_num)).trans_lt amount.isLt

/-- WETH a V2 pair gives. -/
def takenField (amount : Word) : TakenField where
  value := (helperLoop amount.toNat 5).1
  shift := (helperLoop amount.toNat 5).2
  value_lt := taken_lt amount
  shift_lt := taken_shift_lt amount
  fits := taken_fits amount

theorem takenField_amount : (takenField amount).amount = amountAfterEncoding amount 5 :=
  ofAmount_amount (by norm_num) (by norm_num)

end Fields

/-! ### What the builders pack -/

/-- What a segment is for. -/
def segmentTrade (self : Address) (segment : Segment) : Trade :=
  ⟨segment.calls self, segment.accepts self⟩

/-- A later payload is a segment for the trade. -/
def PacksNext (self : Address) (payload : List Byte) (value : Word) (trade : Trade) : Prop :=
  ∃ segment : Segment, payload = segment.encode ∧ value = 0 ∧ segmentTrade self segment = trade

/-- The first payload is the start of a chain for the trade. -/
def PacksFirst (self : Address) (payload : List Byte) (value : Word) (trade : Trade) : Prop :=
  ∃ (first : First) (segments : List Segment),
    payload = first.encode ++ segments.flatMap Segment.encode
    ∧ first.Fits value
    ∧ ∀ world (later : List Segment), Chain.outcome world self value ⟨first, segments ++ later⟩
        = performTrades world [] (trade :: later.map (segmentTrade self))

section Perform

variable {world : World} {self : Address} {value : Word}

theorem perform_segments (events : List Event) (segments : List Segment) :
    perform world self events segments
      = performTrades world events (segments.map (segmentTrade self)) := by
  induction segments generalizing events with
  | nil => rfl
  | cons segment segments ih =>
    rw [List.map_cons, perform, performTrades, ih]
    rfl

/-- A V2 segment in front of a chain is a trade of its own. -/
theorem outcome_first {first : First} {trade : Trade} (calls : first.calls self value = trade.calls)
    (accepts : ∀ reply, first.accepts reply = trade.accepts reply) (later : List Segment) :
    Chain.outcome world self value ⟨first, later⟩
      = performTrades world [] (trade :: later.map (segmentTrade self)) := by
  rw [Chain.outcome, performTrades, calls, accepts, perform_segments, List.nil_append]

/-- The label in front of a V3 segment does nothing. -/
theorem outcome_prepared (segments : List Segment) :
    Chain.outcome world self value ⟨.prepareStack, segments⟩
      = performTrades world [] (segments.map (segmentTrade self)) :=
  perform_segments [] segments

end Perform

section Packs

variable {keccak : List Byte → Word} {onchain : Onchain} {self intermediateToken inputToken : Address}
  {pool outputToken : Address} {fee : BitVec 24} {amountIn value : Word} {payload : List Byte}
  {trade : Trade}

theorem otherOffset_sub {isWethToken0 : Prop} [Decidable isWethToken0] (shift : ℕ) :
    (if isWethToken0 then 68 - 4 - shift else 36 - 4 - shift)
      = otherOffset isWethToken0 - shift := by
  rw [otherOffset]
  split <;> simp_all

theorem wethOffset_sub {isWethToken0 : Prop} [Decidable isWethToken0] (shift : ℕ) :
    (if isWethToken0 then 68 - shift else 100 - shift) = wethOffset isWethToken0 - shift := by
  rw [wethOffset]
  split <;> simp_all

theorem memoryOffsetIn_eq (shift : ℕ) : 68 - shift - 4 = 0x40 - shift := by omega

/-- A later swap that buys on a V2 pair. -/
theorem v2Input_next
    (built : v2CreateSandwichMultiPayloadWethIsInput onchain intermediateToken amountIn false
      = some (payload, value)) :
    ∃ trade, (Meat.v2Input intermediateToken amountIn).trade keccak onchain self false = some trade
      ∧ PacksNext self payload value trade := by
  simp only [v2CreateSandwichMultiPayloadWethIsInput, Option.bind_eq_bind, Option.bind_eq_some_iff,
    Option.some.injEq, Prod.mk.injEq, Bool.false_eq_true, if_false] at built
  obtain ⟨pair, found, amountOut, quoted, rfl, rfl⟩ := built
  simp only [Meat.trade, found, quoted, Option.bind_eq_bind, Option.bind_some]
  refine ⟨_, rfl, .v2InputMultiNext pair (wethAddress < intermediateToken)
    (Field.ofAmount amountOut 4 (by norm_num) (by norm_num))
    (BitVec.ofNat 40 (amountIn.toNat / wethEncodeMultiple)), ?_, rfl, ?_⟩
  · simp only [Segment.encode, Segment.fields, Segment.handler, v2FindFunctionSig,
      functionSigsToJumpLabel_eq, encodeNumToByteAndOffsetV2, Field.ofAmount, if_true, if_false,
      Bool.false_eq_true, List.append_assoc, otherOffset_sub]
    rw [BitVec.toNat_ofNat, show (2 : ℕ) ^ 40 = 256 ^ 5 by norm_num, bigEndian_mod]
  · simp only [segmentTrade, Segment.calls, Trade.mk.injEq, ofAmount_amount]
    refine ⟨by rw [BitVec.toNat_ofNat]; rfl, ?_⟩
    funext reply
    simp [Segment.accepts, Segment.swap]

/-- The first swap, when it buys on a V2 pair. -/
theorem v2Input_first
    (built : v2CreateSandwichMultiPayloadWethIsInput onchain intermediateToken amountIn true
      = some (payload, value)) :
    ∃ trade, (Meat.v2Input intermediateToken amountIn).trade keccak onchain self true = some trade
      ∧ PacksFirst self payload value trade := by
  simp only [v2CreateSandwichMultiPayloadWethIsInput, Option.bind_eq_bind, Option.bind_eq_some_iff,
    Option.some.injEq, Prod.mk.injEq, if_true] at built
  obtain ⟨pair, found, amountOut, quoted, rfl, rfl⟩ := built
  have fits : (BitVec.ofNat 256 (amountIn.toNat / wethEncodeMultiple)).toNat < 2 ^ 224 :=
    callvalue_lt amountIn
  simp only [Meat.trade, found, quoted, Option.bind_eq_bind, Option.bind_some]
  refine ⟨_, rfl, .v2InputMultiFirst pair (wethAddress < intermediateToken)
    (Field.ofAmount amountOut 4 (by norm_num) (by norm_num)), [], ?_, fits, fun world later =>
      outcome_first ?_ (fun _ => rfl) later⟩
  · simp only [First.encode, First.fields, First.handler, v2FindFunctionSig,
      functionSigsToJumpLabel_eq, encodeNumToByteAndOffsetV2, Field.ofAmount, if_true,
      List.flatMap_nil, List.append_nil, List.append_assoc, otherOffset_sub]
  · have whole : (BitVec.ofNat 256 (amountIn.toNat / wethEncodeMultiple)).toNat
        = amountIn.toNat / wethEncodeMultiple :=
      toNat_ofNat_of_lt ((Nat.div_le_self _ _).trans_lt amountIn.isLt)
    rw [First.calls, whole, ofAmount_amount]
    rfl

/-- A later swap that sells on a V2 pair. -/
theorem v2Output_next
    (built : v2CreateSandwichMultiPayloadWethIsOutput onchain intermediateToken amountIn false
      = some (payload, value)) :
    ∃ trade, (Meat.v2Output intermediateToken amountIn).trade keccak onchain self false = some trade
      ∧ PacksNext self payload value trade := by
  simp only [v2CreateSandwichMultiPayloadWethIsOutput, Option.bind_eq_bind, Option.bind_eq_some_iff,
    Option.some.injEq, Prod.mk.injEq, Bool.false_eq_true, if_false, Option.guard_eq_some'] at built
  obtain ⟨pair, found, _, positive, amountOut, quoted, rfl, rfl⟩ := built
  rw [dustField_amount] at quoted
  simp only [Meat.trade, found, amountWithDust_eq positive, quoted, Option.bind_eq_bind,
    Option.bind_some]
  refine ⟨_, rfl, .v2OutputMultiNext pair intermediateToken (wethAddress < intermediateToken)
    (dustField amountIn) (takenField amountOut), ?_, rfl, ?_⟩
  · simp only [Segment.encode, Segment.fields, Segment.handler, v2FindFunctionSig,
      functionSigsToJumpLabel_eq, encodeNumToByteAndOffsetV2, dustField, takenField, if_true,
      if_false, Bool.false_eq_true, List.append_assoc, wethOffset_sub, memoryOffsetIn_eq]
  · simp only [segmentTrade, Segment.calls, takenField_amount, Trade.mk.injEq, true_and]
    funext reply
    simp [Segment.accepts, Segment.swap]

/-- The first swap, when it sells on a V2 pair. -/
theorem v2Output_first
    (built : v2CreateSandwichMultiPayloadWethIsOutput onchain intermediateToken amountIn true
      = some (payload, value)) :
    ∃ trade, (Meat.v2Output intermediateToken amountIn).trade keccak onchain self true = some trade
      ∧ PacksFirst self payload value trade := by
  simp only [v2CreateSandwichMultiPayloadWethIsOutput, Option.bind_eq_bind, Option.bind_eq_some_iff,
    Option.some.injEq, Prod.mk.injEq, if_true, Option.guard_eq_some'] at built
  obtain ⟨pair, found, _, positive, amountOut, quoted, rfl, rfl⟩ := built
  rw [dustField_amount] at quoted
  simp only [Meat.trade, found, amountWithDust_eq positive, quoted, Option.bind_eq_bind,
    Option.bind_some]
  have whole : (BitVec.ofNat 256 (encodeNumToByteAndOffsetV2 amountOut.toNat 5).1).toNat
      = (takenField amountOut).value :=
    toNat_ofNat_of_lt ((takenField amountOut).value_lt.trans (by norm_num))
  refine ⟨_, rfl, .v2OutputMultiFirst pair intermediateToken (wethAddress < intermediateToken)
    (dustField amountIn) (takenField amountOut).shift, [], ?_, ⟨(takenField amountOut).shift_lt, ?_⟩,
    fun world later => outcome_first ?_ (fun _ => rfl) later⟩
  · simp only [First.encode, First.fields, First.handler, v2FindFunctionSig,
      functionSigsToJumpLabel_eq, encodeNumToByteAndOffsetV2, dustField, takenField, if_true,
      if_false, Bool.false_eq_true, List.flatMap_nil, List.append_nil, List.append_assoc,
      wethOffset_sub, memoryOffsetIn_eq]
  · rw [whole]
    exact (takenField amountOut).fits
  · rw [First.calls, whole, ← TakenField.amount, takenField_amount]

/-- What a V3 segment is for, with the token it pays in. -/
theorem segmentTrade_v3 {self token : Address} {segment : Segment} {zeroForOne : Bool}
    {poolKeyHash : Word} {spent bought : ℕ}
    (swap : segment.swap = some ⟨pool, zeroForOne,
      if zeroForOne then 0 - BitVec.ofNat 256 bought else BitVec.ofNat 256 spent, token, poolKeyHash⟩)
    (calls : segment.calls self = (segment.swap.map (V3Swap.call · self)).toList)
    (guarded : ∀ word, segment.guard word
      = if zeroForOne then decide (word < BitVec.ofNat 256 spent)
        else decide (BitVec.ofNat 256 bought < 1 - word)) :
    segmentTrade self segment = v3Trade self pool token zeroForOne poolKeyHash spent bought := by
  rw [segmentTrade, v3Trade, calls, swap]
  congr 1
  funext reply
  rw [Segment.accepts, swap]
  simp only [guarded]

/-- A later swap that buys on a V3 pool. -/
theorem v3Input_next
    (built : v3CreateSandwichMultiMeatPayloadWethIsInput keccak onchain pool wethAddress outputToken
      fee amountIn false = some (payload, value)) :
    ∃ trade, (Meat.v3Input pool outputToken fee amountIn).trade keccak onchain self false = some trade
      ∧ PacksNext self payload value trade := by
  simp only [v3CreateSandwichMultiMeatPayloadWethIsInput, Option.bind_eq_bind,
    Option.bind_eq_some_iff, Option.some.injEq, Prod.mk.injEq, Bool.false_eq_true, if_false,
    List.nil_append] at built
  obtain ⟨amountOut, quoted, rfl, rfl⟩ := built
  change onchain.getAmountOutV3 (BitVec.ofNat 256 (amountAfterEncoding amountIn 4)) _ _ _ = _ at quoted
  simp only [Meat.trade, quoted, Option.bind_eq_bind, Option.bind_some]
  refine ⟨_, rfl, ?_⟩
  have spent : (Field.ofAmount amountIn 4 (by norm_num) (by norm_num)).amount
      = amountAfterEncoding amountIn 4 := ofAmount_amount _ _
  have bought : (Field.ofAmount amountOut 5 (by norm_num) (by norm_num)).amount
      = amountAfterEncoding amountOut 5 := ofAmount_amount _ _
  by_cases side : wethAddress < outputToken
  · refine ⟨.v3Input0Multi pool (Field.ofAmount amountIn 4 (by norm_num) (by norm_num))
      (Field.ofAmount amountOut 5 (by norm_num) (by norm_num))
      (pairInitHash keccak wethAddress outputToken fee), ?_, rfl, ?_⟩
    · simp only [Segment.encode, Segment.fields, Segment.handler, v3FindSwapType, if_true, if_pos side,
        functionSigsToJumpLabel_eq, encodeNumToByteAndOffsetV3, Field.ofAmount, Field.encode,
        List.append_assoc]
    · rw [decide_eq_true side]
      refine segmentTrade_v3 ?_ rfl ?_
      · rw [Segment.swap, bought]
        rfl
      · intro word
        rw [Segment.guard, spent]
        rfl
  · refine ⟨.v3Input1Multi pool (Field.ofAmount amountIn 4 (by norm_num) (by norm_num))
      (Field.ofAmount amountOut 5 (by norm_num) (by norm_num))
      (pairInitHash keccak wethAddress outputToken fee), ?_, rfl, ?_⟩
    · simp only [Segment.encode, Segment.fields, Segment.handler, v3FindSwapType, if_true, if_neg side,
        functionSigsToJumpLabel_eq, encodeNumToByteAndOffsetV3, Field.ofAmount, Field.encode,
        List.append_assoc]
    · rw [decide_eq_false side]
      refine segmentTrade_v3 ?_ rfl ?_
      · rw [Segment.swap, spent]
        rfl
      · intro word
        rw [Segment.guard, bought]
        rfl

/-- A later swap that sells on a V3 pool. -/
theorem v3Output_next
    (built : v3CreateSandwichMultiMeatPayloadWethIsOutput keccak onchain pool inputToken wethAddress
      fee amountIn false = some (payload, value)) :
    ∃ trade, (Meat.v3Output pool inputToken fee amountIn).trade keccak onchain self false = some trade
      ∧ PacksNext self payload value trade := by
  simp only [v3CreateSandwichMultiMeatPayloadWethIsOutput, Option.bind_eq_bind,
    Option.bind_eq_some_iff, Option.some.injEq, Prod.mk.injEq, Bool.false_eq_true, if_false,
    List.nil_append] at built
  obtain ⟨amountOut, quoted, rfl, rfl⟩ := built
  change onchain.getAmountOutV3 (BitVec.ofNat 256 (amountAfterEncoding amountIn 5)) _ _ _ = _ at quoted
  simp only [Meat.trade, quoted, Option.bind_eq_bind, Option.bind_some]
  refine ⟨_, rfl, ?_⟩
  have spent : (Field.ofAmount amountIn 5 (by norm_num) (by norm_num)).amount
      = amountAfterEncoding amountIn 5 := ofAmount_amount _ _
  have bought : (Field.ofAmount amountOut 4 (by norm_num) (by norm_num)).amount
      = amountAfterEncoding amountOut 4 := ofAmount_amount _ _
  by_cases side : inputToken < wethAddress
  · refine ⟨.v3Output1Multi pool (Field.ofAmount amountOut 4 (by norm_num) (by norm_num))
      (Field.ofAmount amountIn 5 (by norm_num) (by norm_num)) inputToken
      (pairInitHash keccak inputToken wethAddress fee), ?_, rfl, ?_⟩
    · simp only [Segment.encode, Segment.fields, Segment.handler, v3FindSwapType, if_true, if_pos side,
        functionSigsToJumpLabel_eq, encodeNumToByteAndOffsetV3, Field.ofAmount, Field.encode,
        List.append_assoc, Bool.false_eq_true, if_false]
    · rw [decide_eq_true side]
      refine segmentTrade_v3 ?_ rfl ?_
      · rw [Segment.swap, bought]
        rfl
      · intro word
        rw [Segment.guard, spent]
        rfl
  · refine ⟨.v3Output0Multi pool (Field.ofAmount amountOut 4 (by norm_num) (by norm_num))
      (Field.ofAmount amountIn 5 (by norm_num) (by norm_num)) inputToken
      (pairInitHash keccak inputToken wethAddress fee), ?_, rfl, ?_⟩
    · simp only [Segment.encode, Segment.fields, Segment.handler, v3FindSwapType, if_true, if_neg side,
        functionSigsToJumpLabel_eq, encodeNumToByteAndOffsetV3, Field.ofAmount, Field.encode,
        List.append_assoc, Bool.false_eq_true, if_false]
    · rw [decide_eq_false side]
      refine segmentTrade_v3 ?_ rfl ?_
      · rw [Segment.swap, spent]
        rfl
      · intro word
        rw [Segment.guard, bought]
        rfl

/-- A first payload for a V3 pool is a later one behind the label that prepares the stack. -/
theorem v3Input_prepared
    (built : v3CreateSandwichMultiMeatPayloadWethIsInput keccak onchain pool inputToken outputToken
      fee amountIn true = some (payload, value)) :
    ∃ behind, payload = First.prepareStack.encode ++ behind
      ∧ v3CreateSandwichMultiMeatPayloadWethIsInput keccak onchain pool inputToken outputToken
        fee amountIn false = some (behind, value) := by
  simp only [v3CreateSandwichMultiMeatPayloadWethIsInput, Option.bind_eq_bind,
    Option.bind_eq_some_iff, Option.some.injEq, Prod.mk.injEq, if_true] at built
  obtain ⟨amountOut, quoted, rfl, rfl⟩ := built
  simp only [v3CreateSandwichMultiMeatPayloadWethIsInput, quoted, functionSigsToJumpLabel_eq,
    First.encode, First.fields, First.handler, List.append_nil, List.append_assoc]
  exact ⟨_, rfl, rfl⟩

theorem v3Output_prepared
    (built : v3CreateSandwichMultiMeatPayloadWethIsOutput keccak onchain pool inputToken outputToken
      fee amountIn true = some (payload, value)) :
    ∃ behind, payload = First.prepareStack.encode ++ behind
      ∧ v3CreateSandwichMultiMeatPayloadWethIsOutput keccak onchain pool inputToken outputToken
        fee amountIn false = some (behind, value) := by
  simp only [v3CreateSandwichMultiMeatPayloadWethIsOutput, Option.bind_eq_bind,
    Option.bind_eq_some_iff, Option.some.injEq, Prod.mk.injEq, if_true] at built
  obtain ⟨amountOut, quoted, rfl, rfl⟩ := built
  simp only [v3CreateSandwichMultiMeatPayloadWethIsOutput, quoted, functionSigsToJumpLabel_eq,
    First.encode, First.fields, First.handler, List.append_nil, List.append_assoc]
  exact ⟨_, rfl, rfl⟩

theorem PacksNext.prepared (packs : PacksNext self payload value trade) :
    PacksFirst self (First.prepareStack.encode ++ payload) value trade := by
  obtain ⟨segment, rfl, rfl, rfl⟩ := packs
  exact ⟨.prepareStack, [segment], by simp, trivial, fun world later => outcome_prepared _⟩

variable (self) in
/-- A later payload is a segment for what its meat is for. -/
theorem Meat.packs_next {meat : Meat} (built : meat.payload keccak onchain false = some (payload, value)) :
    ∃ trade, meat.trade keccak onchain self false = some trade ∧ PacksNext self payload value trade := by
  cases meat with
  | v2Input => exact v2Input_next built
  | v2Output => exact v2Output_next built
  | v3Input => exact v3Input_next built
  | v3Output => exact v3Output_next built

variable (self) in
/-- A first payload is the start of a chain for what its meat is for. -/
theorem Meat.packs_first {meat : Meat} (built : meat.payload keccak onchain true = some (payload, value)) :
    ∃ trade, meat.trade keccak onchain self true = some trade ∧ PacksFirst self payload value trade := by
  cases meat with
  | v2Input => exact v2Input_first built
  | v2Output => exact v2Output_first built
  | v3Input =>
    obtain ⟨behind, rfl, later⟩ := v3Input_prepared built
    obtain ⟨trade, listed, packs⟩ := v3Input_next later
    exact ⟨trade, listed, packs.prepared⟩
  | v3Output =>
    obtain ⟨behind, rfl, later⟩ := v3Output_prepared built
    obtain ⟨trade, listed, packs⟩ := v3Output_next later
    exact ⟨trade, listed, packs.prepared⟩

variable (self) in
/-- The later payloads are segments for the trades of their meats. -/
theorem packMeats_next {meats : List Meat}
    (built : packMeats keccak onchain false meats = some (payload, value)) :
    ∃ segments : List Segment, payload = segments.flatMap Segment.encode ∧ value = 0
      ∧ tradeMeats keccak onchain self false meats = some (segments.map (segmentTrade self)) := by
  induction meats generalizing payload value with
  | nil =>
    obtain ⟨rfl, rfl⟩ := Prod.mk.inj (Option.some.inj built)
    exact ⟨[], rfl, rfl, rfl⟩
  | cons meat meats ih =>
    simp only [packMeats, Option.bind_eq_bind, Option.bind_eq_some_iff, Option.some.injEq] at built
    obtain ⟨⟨subPayload, encodedValue⟩, one, ⟨behind, callvalue⟩, rest, same⟩ := built
    obtain ⟨rfl, rfl⟩ := Prod.mk.inj same
    obtain ⟨trade, listed, segment, rfl, rfl, rfl⟩ := Meat.packs_next self one
    obtain ⟨segments, rfl, rfl, trades⟩ := ih rest
    refine ⟨segment :: segments, by simp, by simp, ?_⟩
    simp only [tradeMeats, listed, trades, Option.bind_eq_bind, Option.bind_some, List.map_cons]

end Packs

/-! ### Through the contract -/

/-- A message of the searcher with the payload of some meats, as the tests send it. -/
structure SendsMeats (message : Message) (payload : List Byte) (callvalue : Word) : Prop where
  caller : message.caller = searcherAddress
  calldata : message.calldata = bigEndian 1 message.number.toNat ++ (payload ++ [0x2e])
  callvalue : message.callvalue = callvalue

/-- What the helper packs, the contract performs. -/
theorem helper_chain_performs (keccak : List Byte → Word) (onchain : Onchain) (world : World)
    (message : Message) (meat : Meat) (meats : List Meat) (payload : List Byte) (callvalue : Word)
    (built : packMeats keccak onchain true (meat :: meats) = some (payload, callvalue))
    (sends : SendsMeats message payload callvalue) :
    ∃ trades, tradeMeats keccak onchain message.address true (meat :: meats) = some trades
      ∧ (sandwich world message).Executes (performTrades world [] trades) := by
  simp only [packMeats, Option.bind_eq_bind, Option.bind_eq_some_iff, Option.some.injEq] at built
  obtain ⟨⟨subPayload, encodedValue⟩, one, ⟨behind, further⟩, rest, same⟩ := built
  obtain ⟨rfl, rfl⟩ := Prod.mk.inj same
  obtain ⟨trade, listed, first, segments, rfl, fits, performs⟩ :=
    Meat.packs_first message.address one
  obtain ⟨later, rfl, rfl, trades⟩ := packMeats_next message.address rest
  refine ⟨trade :: later.map (segmentTrade message.address), ?_, ?_⟩
  · simp only [tradeMeats, listed, trades, Option.bind_eq_bind, Option.bind_some]
  · have callvalue : message.callvalue = encodedValue := sends.callvalue.trans (BitVec.add_zero _)
    have carries : message.Carries ⟨first, segments ++ later⟩ := by
      refine ⟨sends.caller, ?_, callvalue ▸ fits⟩
      rw [sends.calldata, Chain.calldata, remaining]
      simp only [List.flatMap_append, List.append_assoc]
    have runs := chain_executes world carries
    rwa [callvalue, performs] at runs

/-- A pair whose reserves are 20000 WETH and 40 million units, and a quoter that promises 2000. -/
def hybridOnchain : Onchain where
  getPair := fun _ _ _ => some 0x0d4a11d5EEaaC28EC3F61d100daF4d40471f1852
  getReserves := fun _ => some (20000000000000000000000, 40000000000000)
  getAmountOut := fun amountIn reserveIn reserveOut =>
    some (BitVec.ofNat 256 (amountIn.toNat * 997 * reserveOut.toNat
      / (reserveIn.toNat * 1000 + amountIn.toNat * 997)))
  quoteExactInputSingle := fun _ _ _ _ _ => some 2000000000

/-- Buy USDT on a V2 pair, USDC on a V3 pool and USDC on a V2 pair. -/
def hybridMeats : List Meat :=
  [.v2Input 0xdAC17F958D2ee523a2206206994597C13D831ec7 1942123412341234240,
    .v3Input 0x88e6A0c2dDD26FEEb64F039a2c41296FcB3f5640 0xA0b86991c6218b36c1d19D4a2e9Eb0cE3606eB48 500
      1234567891234123400,
    .v2Input 0xA0b86991c6218b36c1d19D4a2e9Eb0cE3606eB48 942000000000000000]

theorem helper_chain_performs_hybrid : ∃ message trades,
    tradeMeats (fun _ => 0) hybridOnchain message.address true hybridMeats = some trades
      ∧ (sandwich quietWorld message).Executes (performTrades quietWorld [] trades) := by
  have size : (packMeats (fun _ => 0) hybridOnchain true hybridMeats).map (fun packed =>
      packed.1.length) = some 121 := by decide +kernel
  obtain ⟨⟨payload, callvalue⟩, built, length⟩ := Option.map_eq_some_iff.mp size
  let message : Message := {
    caller := searcherAddress
    origin := searcherAddress
    address := 1
    callvalue := callvalue
    calldata := bigEndian 1 (17000000 : Word).toNat ++ (payload ++ [0x2e])
    number := 17000000
    calldata_fits := by simp [length] }
  exact ⟨message, helper_chain_performs _ _ quietWorld message _ _ payload callvalue built
    ⟨rfl, rfl, rfl⟩⟩

end Sando.RoundTrip
