/-
The arguments of a call, as the handlers write them.

A handler assembles calldata by storing whole words at offsets that overlap: an amount multiplied by
`2 ^ 32` is a word stored four bytes early, a packed amount shifted by whole bytes is a word stored at
an offset the payload chooses, and the selector or the next argument then overwrites what stuck out.
Each definition below is such a chain of stores, shared by the handlers that make it; each theorem
reads the finished call out of it.

Fresh memory matters: `transferFromArguments`, `transferArguments`, `swapArguments` and
`swapFirstArguments` leave a few bytes of the call to what the memory held before. Their theorems ask
for those bytes to be zero. The chains of the later segments of a payload clear them.
-/

import Sando.Huff.Calls

namespace Sando.Huff

open Sando.Evm Memory

section Arguments

variable {memory base : Memory} {owner recipient : Address} {amount : Word}
  {offset shift value : ℕ}

/-- A packed amount, moved by whole bytes inside an ABI word. -/
theorem field_div (small : shift ≤ 28) :
    value * 256 ^ 28 / 256 ^ (28 - shift) = value * 256 ^ shift := by
  rw [show (256 : ℕ) ^ 28 = 256 ^ shift * 256 ^ (28 - shift) by rw [← pow_add]; congr 1; omega,
    ← Nat.mul_assoc, Nat.mul_div_cancel _ (by positivity)]

theorem field_mod : value * 256 ^ 28 % 256 ^ (28 - shift) = 0 :=
  Nat.mod_eq_zero_of_dvd (Dvd.dvd.mul_left (pow_dvd_pow 256 (Nat.sub_le 28 shift)) value)

theorem address_mod (address : Address) : address.toNat % 256 ^ 32 = address.toNat :=
  Nat.mod_eq_of_lt (lt_trans address.isLt (by norm_num))

/-- A clear word is clear at its beginning. -/
theorem window_before (clear : window memory offset 0x20 = 0) {count : ℕ} (inside : count ≤ 0x20) :
    window memory offset count = 0 := by
  rw [window_high memory offset count (0x20 - count), show count + (0x20 - count) = 0x20 by omega,
    clear, Nat.zero_div]

/-- A clear word is clear at its end. -/
theorem window_behind (clear : window memory offset 0x20 = 0) {start count : ℕ}
    (inside : offset ≤ start) (border : start + count = offset + 0x20) :
    window memory start count = 0 := by
  obtain ⟨skipped, rfl⟩ : ∃ skipped, start = offset + skipped := ⟨start - offset, by omega⟩
  rw [window_low memory offset skipped count, show skipped + count = 0x20 by omega, clear,
    Nat.zero_mod]

/-! ### Token transfers -/

/-- `transferFrom` for a WETH amount divided by `2 ^ 32`. -/
def transferFromArguments (memory : Memory) (owner recipient amount : Word) : Memory :=
  (((memory.mstore 0x00 transferFromSig).mstore 0x04 owner).mstore 0x40 amount).mstore 0x24 recipient

theorem slice_transferFromArguments (clear : window memory 0x60 0x04 = 0) :
    slice (transferFromArguments memory (owner.setWidth 256) (recipient.setWidth 256) amount) 0 0x64
      = encodeCall 0x23b872dd
          [owner.toNat, recipient.toNat, amount.toNat % 2 ^ 224 * 2 ^ 32] := by
  refine slice_eq_encodeCall rfl ?_ ?_
  · simp (disch := omega) only [transferFromArguments, window_mstore_outside, window_mstore_inside]
    decide
  · simp (disch := omega) only [transferFromArguments, List.length_cons, List.length_nil, wordsAt,
      Nat.reduceAdd, Nat.reduceSub, window_mstore_outside, window_mstore_inside, window_mstore_head,
      clear, toNat_setWidth_address, Nat.pow_zero, Nat.div_one, address_mod]
    norm_num

/-- The same call for a later segment, which clears the end of the amount first. -/
def transferFromNextArguments (memory : Memory) (owner recipient amount : Word) : Memory :=
  ((((memory.mstore 0x00 transferFromSig).mstore 0x04 owner).mstore 0x44 0x00).mstore 0x40
    amount).mstore 0x24 recipient

theorem slice_transferFromNextArguments :
    slice (transferFromNextArguments memory (owner.setWidth 256) (recipient.setWidth 256) amount) 0
        0x64
      = encodeCall 0x23b872dd
          [owner.toNat, recipient.toNat, amount.toNat % 2 ^ 224 * 2 ^ 32] := by
  refine slice_eq_encodeCall rfl ?_ ?_
  · simp (disch := omega) only [transferFromNextArguments, window_mstore_outside,
      window_mstore_inside]
    decide
  · simp (disch := omega) only [transferFromNextArguments, List.length_cons, List.length_nil,
      wordsAt, Nat.reduceAdd, Nat.reduceSub, window_mstore_outside, window_mstore_inside,
      window_mstore_head, toNat_setWidth_address, Nat.pow_zero, Nat.div_one, address_mod]
    norm_num
    decide

/-- `transfer` of a packed amount. -/
def transferArguments (memory : Memory) (recipient : Word) (offset : ℕ) (amount : Word) : Memory :=
  ((memory.mstore 0x00 transferSig).mstore 0x04 recipient).mstore offset amount

theorem slice_transferArguments (clear : window memory 0x24 0x20 = 0)
    (field : amount.toNat = value * 256 ^ 28) (place : offset + shift = 0x40) (small : shift ≤ 28) :
    slice (transferArguments memory (recipient.setWidth 256) offset amount) 0 0x44
      = encodeCall 0xa9059cbb [recipient.toNat, value * 256 ^ shift] := by
  have before : window memory 0x24 (offset - 0x24) = 0 := window_before clear (by omega)
  have behind : offset + 32 - 68 = 28 - shift := by omega
  refine slice_eq_encodeCall rfl ?_ ?_
  · simp (disch := omega) only [transferArguments, window_mstore_outside, window_mstore_inside]
    decide
  · simp (disch := omega) only [transferArguments, List.length_cons, List.length_nil, wordsAt,
      Nat.reduceAdd, Nat.reduceSub, window_mstore_outside, window_mstore_inside, window_mstore_tail,
      toNat_setWidth_address, Nat.pow_zero, Nat.div_one, address_mod, before, behind, field,
      field_div small, Nat.zero_mul, Nat.zero_add]

/-- The low four bytes of the amount, where the next call may find them. -/
theorem window_transferArguments_low (field : amount.toNat = value * 256 ^ 28)
    (place : offset + shift = 0x40) (small : shift ≤ 28) :
    window (transferArguments memory (recipient.setWidth 256) offset amount) 0x40 4
      = value * 256 ^ shift % 2 ^ 32 := by
  have behind : offset + 32 - 68 = 28 - shift := by omega
  simp (disch := omega) only [transferArguments, window_mstore_inside, Nat.reduceAdd, behind, field,
    field_div small]
  norm_num

/-- Behind the amount the call leaves nothing. -/
theorem window_transferArguments_behind {recipient : Word}
    (field : amount.toNat = value * 256 ^ 28) (place : offset + shift = 0x40) (small : shift ≤ 28) :
    window (transferArguments zero recipient offset amount) 0x44 0x20 = 0 := by
  have inner : offset + 32 - 68 = 28 - shift := by omega
  simp (disch := omega) only [transferArguments, window_mstore_head, window_mstore_outside,
    window_zero, inner, field, field_mod, Nat.zero_mul]

/-- The same call for a later segment, which clears the amount first. -/
def transferNextArguments (memory : Memory) (recipient : Word) (offset : ℕ) (amount : Word) :
    Memory :=
  (((memory.mstore 0x24 0x00).mstore 0x00 transferSig).mstore offset amount).mstore 0x04 recipient

theorem slice_transferNextArguments (field : amount.toNat = value * 256 ^ 28)
    (place : offset + shift = 0x40) (small : shift ≤ 28) :
    slice (transferNextArguments memory (recipient.setWidth 256) offset amount) 0 0x44
      = encodeCall 0xa9059cbb [recipient.toNat, value * 256 ^ shift] := by
  have behind : offset + 32 - 68 = 28 - shift := by omega
  refine slice_eq_encodeCall rfl ?_ ?_
  · simp (disch := omega) only [transferNextArguments, window_mstore_outside, window_mstore_inside]
    decide
  · simp (disch := omega) only [transferNextArguments, List.length_cons, List.length_nil, wordsAt,
      Nat.reduceAdd, Nat.reduceSub, window_mstore_outside, window_mstore_inside, window_mstore_tail,
      toNat_setWidth_address, Nat.pow_zero, Nat.div_one, address_mod, behind, field,
      field_div small]
    simp

/-! ### Pair swaps -/

/-- `swap` for a packed amount of the other token. -/
def swapArguments (memory : Memory) (offset : ℕ) (amount recipient : Word) : Memory :=
  (((((memory.mstore 0x00 v2SwapSig32).mstore 0x04 0x00).mstore 0x24 0x00).mstore offset
    amount).mstore 0x44 recipient).mstore 0x64 0x80

/-- Where the packed amount of the token that is not WETH goes. -/
def otherOffset (isWethToken0 : Bool) : ℕ := if isWethToken0 then 0x40 else 0x20

theorem slice_swapArguments {pair : Address} {isWethToken0 : Bool}
    (clear : window memory 0x84 0x20 = 0) (field : amount.toNat = value * 256 ^ 28)
    (place : offset + shift = otherOffset isWethToken0) (small : shift ≤ 28) :
    Event.call pair 0 (slice (swapArguments memory offset amount (recipient.setWidth 256)) 0 0xa4)
      = buyOther pair isWethToken0 (value * 256 ^ shift) recipient := by
  have low : offset ≤ 0x40 := by
    rw [otherOffset] at place
    split at place <;> omega
  have high : 0x04 ≤ offset := by
    rw [otherOffset] at place
    split at place <;> omega
  have selector : window (swapArguments memory offset amount (recipient.setWidth 256)) 0 4
      = 0x022c0d9f := by
    simp (disch := omega) only [swapArguments, window_mstore_outside, window_mstore_inside]
    decide
  cases isWethToken0 with
  | true =>
    rw [otherOffset, if_pos rfl] at place
    have behind : offset + 32 - 68 = 28 - shift := by omega
    rw [buyOther, if_pos rfl, pairSwap]
    refine congrArg (Event.call pair 0) (slice_eq_encodeCall rfl selector ?_)
    simp (disch := omega) only [swapArguments, List.length_cons, List.length_nil, wordsAt,
      Nat.reduceAdd, Nat.reduceSub, window_mstore_outside, window_mstore_inside, window_mstore_tail,
      toNat_setWidth_address, Nat.pow_zero, Nat.div_one, address_mod, behind, field,
      field_div small, clear]
    simp
  | false =>
    rw [otherOffset, if_neg (by decide)] at place
    have behind : offset + 32 - 36 = 28 - shift := by omega
    rw [buyOther, if_neg (by decide), pairSwap]
    refine congrArg (Event.call pair 0) (slice_eq_encodeCall rfl selector ?_)
    simp (disch := omega) only [swapArguments, List.length_cons, List.length_nil, wordsAt,
      Nat.reduceAdd, Nat.reduceSub, window_mstore_outside, window_mstore_inside, window_mstore_tail,
      window_mstore_head, toNat_setWidth_address, Nat.pow_zero, Nat.div_one, address_mod, behind,
      field, field_div small, field_mod, clear]
    simp

/-- The same call for a later segment, which clears the length of the data. -/
def swapNextArguments (memory : Memory) (offset : ℕ) (amount recipient : Word) : Memory :=
  (swapArguments memory offset amount recipient).mstore 0x84 0x00

theorem slice_swapNextArguments {pair : Address} {isWethToken0 : Bool}
    (field : amount.toNat = value * 256 ^ 28)
    (place : offset + shift = otherOffset isWethToken0) (small : shift ≤ 28) :
    Event.call pair 0
        (slice (swapNextArguments memory offset amount (recipient.setWidth 256)) 0 0xa4)
      = buyOther pair isWethToken0 (value * 256 ^ shift) recipient := by
  have low : offset ≤ 0x40 := by
    rw [otherOffset] at place
    split at place <;> omega
  have cleared : swapNextArguments memory offset amount (recipient.setWidth 256)
      = swapArguments (memory.mstore 0x84 0x00) offset amount (recipient.setWidth 256) := by
    simp only [swapNextArguments, swapArguments]
    rw [mstore_comm _ 0x64 0x84 _ _ (by omega), mstore_comm _ 0x44 0x84 _ _ (by omega),
      mstore_comm _ offset 0x84 _ _ (by omega), mstore_comm _ 0x24 0x84 _ _ (by omega),
      mstore_comm _ 0x04 0x84 _ _ (by omega), mstore_comm _ 0x00 0x84 _ _ (by omega)]
  rw [cleared]
  exact slice_swapArguments window_mstore_same field place small

/-- `swap` for WETH as token 0, whose amount is divided by `2 ^ 32`. -/
def swap0Arguments (memory : Memory) (amount recipient : Word) : Memory :=
  ((((memory.mstore 0x04 0x00).mstore 0x24 0x00).mstore 0x00 (amount + v2SwapSig32)).mstore 0x44
    recipient).mstore 0x64 0x80

theorem slice_swap0Arguments {pair : Address} (clear : window memory 0x84 0x20 = 0)
    (fits : amount.toNat < 2 ^ 224) :
    Event.call pair 0 (slice (swap0Arguments memory amount (recipient.setWidth 256)) 0 0xa4)
      = buyWeth pair true (amount.toNat * 2 ^ 32) recipient := by
  have sum : (amount + v2SwapSig32).toNat = 0x022c0d9f * 2 ^ 224 + amount.toNat := by
    have selector : v2SwapSig32.toNat = 0x022c0d9f * 2 ^ 224 := by decide
    rw [BitVec.toNat_add, selector]
    omega
  rw [buyWeth, if_pos rfl, pairSwap]
  refine congrArg (Event.call pair 0) (slice_eq_encodeCall rfl ?_ ?_)
  · simp (disch := omega) only [swap0Arguments, window_mstore_outside, window_mstore_inside, sum]
    norm_num
    omega
  · simp (disch := omega) only [swap0Arguments, List.length_cons, List.length_nil, wordsAt,
      Nat.reduceAdd, Nat.reduceSub, window_mstore_outside, window_mstore_inside, window_mstore_head,
      toNat_setWidth_address, Nat.pow_zero, Nat.div_one, address_mod, sum, clear]
    have low : (0x022c0d9f * 2 ^ 224 + amount.toNat) % 256 ^ 28 = amount.toNat := by omega
    rw [low]
    simp

/-- `swap` for WETH as token 1, whose amount is divided by `2 ^ 32`. -/
def swap1Arguments (memory : Memory) (amount recipient : Word) : Memory :=
  ((((memory.mstore 0x00 v2SwapSig32).mstore 0x04 0x00).mstore 0x20 amount).mstore 0x44
    recipient).mstore 0x64 0x80

/-- The last four bytes of the second amount are what the memory held before. -/
theorem slice_swap1Arguments {pair : Address} (clear : window memory 0x84 0x20 = 0)
    (fits : amount.toNat < 2 ^ 224) :
    Event.call pair 0 (slice (swap1Arguments memory amount (recipient.setWidth 256)) 0 0xa4)
      = pairSwap pair 0 (amount.toNat * 2 ^ 32 + window memory 0x40 0x04) recipient := by
  rw [pairSwap]
  refine congrArg (Event.call pair 0) (slice_eq_encodeCall rfl ?_ ?_)
  · simp (disch := omega) only [swap1Arguments, window_mstore_outside, window_mstore_inside]
    decide
  · simp (disch := omega) only [swap1Arguments, List.length_cons, List.length_nil, wordsAt,
      Nat.reduceAdd, Nat.reduceSub, window_mstore_outside, window_mstore_inside, window_mstore_head,
      window_mstore_tail, toNat_setWidth_address, Nat.pow_zero, Nat.div_one, address_mod, clear]
    have high : amount.toNat / 256 ^ 28 = 0 := by omega
    have low : amount.toNat % 256 ^ 28 = amount.toNat := by omega
    rw [high, low]
    simp

/-- `swap` for a WETH amount at an offset of its own; the call starts at `0x40`. -/
def swapFirstArguments (memory : Memory) (offset : ℕ) (amount recipient : Word) : Memory :=
  (((memory.mstore offset amount).mstore 0x24 v2SwapSig4).mstore 0x84 recipient).mstore 0xa4 0x80

/-- Where the amount of WETH goes. -/
def wethOffset (isWethToken0 : Bool) : ℕ := if isWethToken0 then 0x44 else 0x64

theorem slice_swapFirstArguments {pair : Address} {isWethToken0 : Bool}
    (clear0 : window memory 0x44 0x20 = 0) (clear1 : window memory 0x64 0x20 = 0)
    (clear : window memory 0xc4 0x20 = 0) (place : offset + shift = wethOffset isWethToken0)
    (small : shift < 32) (fits : amount.toNat * 256 ^ shift < 2 ^ 256) :
    Event.call pair 0
        (slice (swapFirstArguments memory offset amount (recipient.setWidth 256)) 0x40 0xa4)
      = buyWeth pair isWethToken0 (amount.toNat * 256 ^ shift) recipient := by
  have scaled : amount.toNat * 256 ^ shift < 256 ^ (32 - shift) * 256 ^ shift := by
    rw [← pow_add, show 32 - shift + shift = 32 by omega]
    exact lt_of_lt_of_eq fits (by norm_num)
  have low : amount.toNat % 256 ^ (32 - shift) = amount.toNat :=
    Nat.mod_eq_of_lt (Nat.lt_of_mul_lt_mul_right scaled)
  have high : amount.toNat / 256 ^ (32 - shift) = 0 :=
    Nat.div_eq_of_lt ((Nat.mod_eq_iff_lt (by positivity)).mp low)
  have places : 0x24 ≤ offset ∧ offset ≤ 0x64 := by
    rw [wethOffset] at place
    split at place <;> omega
  have selector : window (swapFirstArguments memory offset amount (recipient.setWidth 256)) 0x40 4
      = 0x022c0d9f := by
    simp (disch := omega) only [swapFirstArguments, window_mstore_outside, window_mstore_inside]
    decide
  cases isWethToken0 with
  | true =>
    rw [wethOffset, if_pos rfl] at place
    have behind : window memory (offset + 32) shift = 0 :=
      window_behind clear0 (by omega) (by omega)
    have inner : offset + 32 - 68 = 32 - shift := by omega
    have outer : 100 - (offset + 32) = shift := by omega
    rw [buyWeth, if_pos rfl, pairSwap]
    refine congrArg (Event.call pair 0) (slice_eq_encodeCall rfl selector ?_)
    simp (disch := omega) only [swapFirstArguments, List.length_cons, List.length_nil, wordsAt,
      Nat.reduceAdd, Nat.reduceSub, window_mstore_outside, window_mstore_inside, window_mstore_head,
      toNat_setWidth_address, Nat.pow_zero, Nat.div_one, address_mod, clear, clear1, behind, inner,
      outer, low]
    simp
  | false =>
    rw [wethOffset, if_neg (by decide)] at place
    have before : window memory 0x44 (offset - 0x44) = 0 := window_before clear0 (by omega)
    have behind : window memory (offset + 32) shift = 0 :=
      window_behind clear1 (by omega) (by omega)
    have inner : offset + 32 - 100 = 32 - shift := by omega
    have outer : 132 - (offset + 32) = shift := by omega
    rw [buyWeth, if_neg (by decide), pairSwap]
    refine congrArg (Event.call pair 0) (slice_eq_encodeCall rfl selector ?_)
    simp (disch := omega) only [swapFirstArguments, List.length_cons, List.length_nil, wordsAt,
      Nat.reduceAdd, Nat.reduceSub, window_mstore_outside, window_mstore_inside, window_mstore_head,
      window_mstore_tail, toNat_setWidth_address, Nat.pow_zero, Nat.div_one, address_mod, clear,
      before, behind, inner, outer, low, high]
    simp

/-- The same call for a later segment, which clears the amounts and the length of the data. -/
def swapNextOutArguments (memory : Memory) (offset : ℕ) (amount recipient : Word) : Memory :=
  (swapFirstArguments ((memory.mstore 0x44 0x00).mstore 0x64 0x00) offset amount recipient).mstore
    0xc4 0x00

theorem slice_swapNextOutArguments {pair : Address} {isWethToken0 : Bool}
    (place : offset + shift = wethOffset isWethToken0)
    (small : shift < 32) (fits : amount.toNat * 256 ^ shift < 2 ^ 256) :
    Event.call pair 0
        (slice (swapNextOutArguments memory offset amount (recipient.setWidth 256)) 0x40 0xa4)
      = buyWeth pair isWethToken0 (amount.toNat * 256 ^ shift) recipient := by
  have low : offset ≤ 0x64 := by
    rw [wethOffset] at place
    split at place <;> omega
  have cleared : swapNextOutArguments memory offset amount (recipient.setWidth 256)
      = swapFirstArguments (((memory.mstore 0x44 0x00).mstore 0x64 0x00).mstore 0xc4 0x00) offset
          amount (recipient.setWidth 256) := by
    simp only [swapNextOutArguments, swapFirstArguments]
    rw [mstore_comm _ 0xa4 0xc4 _ _ (by omega), mstore_comm _ 0x84 0xc4 _ _ (by omega),
      mstore_comm _ 0x24 0xc4 _ _ (by omega), mstore_comm _ offset 0xc4 _ _ (by omega)]
  rw [cleared]
  refine slice_swapFirstArguments ?_ ?_ ?_ place small fits
  · simp (disch := omega) only [window_mstore_outside, window_mstore_same]
    rfl
  · simp (disch := omega) only [window_mstore_outside, window_mstore_same]
    rfl
  · exact window_mstore_same

/-! ### Pool swaps -/

/-- Selector, recipient and nothing else yet. -/
def poolSwapHead (memory : Memory) (recipient : Word) : Memory :=
  (memory.mstore 0x00 v3SwapSig32).mstore 0x04 recipient

/-- The rest of a pool swap: `payment` is the direction byte and the token to pay with. -/
def poolSwapTail (memory : Memory) (amountSpecified limit payment poolKeyHash : Word) : Memory :=
  (((((memory.mstore 0x44 amountSpecified).mstore 0x64 limit).mstore 0x84 0xa0).mstore 0xa4
    0x35).mstore 0xc4 payment).mstore 0xd9 poolKeyHash

/-- The direction byte and the token, left-aligned. -/
def paymentWord (zeroForOne : Bool) (token : Address) : Word :=
  if zeroForOne then
    token.setWidth 256 <<< (0x58 : ℕ)
      + 0x0100000000000000000000000000000000000000000000000000000000000000
  else token.setWidth 256 <<< (0x58 : ℕ)

theorem toNat_paymentWord (zeroForOne : Bool) (token : Address) :
    (paymentWord zeroForOne token).toNat
      = (zeroForOne.toNat * 256 ^ 20 + token.toNat) * 256 ^ 11 := by
  have small := token.isLt
  have shifted : (token.setWidth 256 <<< (0x58 : ℕ)).toNat = token.toNat * 2 ^ 88 := by
    rw [BitVec.toNat_shiftLeft, toNat_setWidth_address, Nat.shiftLeft_eq]
    omega
  cases zeroForOne with
  | true =>
    have flag : (0x0100000000000000000000000000000000000000000000000000000000000000 : Word).toNat
        = 256 ^ 31 := by decide
    rw [paymentWord, if_pos rfl, BitVec.toNat_add, shifted, flag, Bool.toNat_true]
    omega
  | false =>
    rw [paymentWord, if_neg (by decide), shifted]
    norm_num

/-- A pool swap, on memory that holds its head. -/
theorem slice_poolSwapTail (swap : V3Swap) {self : Address}
    (selector : window memory 0x00 0x04 = 0x128acb08)
    (recipient : window memory 0x04 0x20 = self.toNat)
    (direction : window memory 0x24 0x20 = swap.zeroForOne.toNat) :
    slice (poolSwapTail memory swap.amountSpecified (V3Swap.limit swap.zeroForOne)
        (paymentWord swap.zeroForOne swap.token) swap.poolKeyHash) 0 0xf9 = swap.input self := by
  obtain ⟨pool, zeroForOne, amountSpecified, token, poolKeyHash⟩ := swap
  have tokenSmall := token.isLt
  have payment := toNat_paymentWord zeroForOne token
  generalize memory_eq : poolSwapTail memory amountSpecified (V3Swap.limit zeroForOne)
    (paymentWord zeroForOne token) poolKeyHash = arguments
  have static : slice arguments 0 0xc4
      = encodeCall 0x128acb08 [self.toNat, zeroForOne.toNat, amountSpecified.toNat,
          (V3Swap.limit zeroForOne).toNat, 0xa0, 0x35] := by
    refine slice_eq_encodeCall rfl ?_ ?_
    · simp (disch := omega) only [← memory_eq, poolSwapTail, window_mstore_outside, selector]
    · simp (disch := omega) only [← memory_eq, poolSwapTail, List.length_cons, List.length_nil,
        wordsAt, Nat.reduceAdd, window_mstore_outside, window_mstore_same, recipient, direction]
      rfl
  have flag : window arguments 0xc4 1 = zeroForOne.toNat := by
    simp (disch := omega) only [← memory_eq, poolSwapTail, window_mstore_outside,
      window_mstore_inside, payment]
    cases zeroForOne <;> norm_num <;> omega
  have paid : window arguments 0xc5 20 = token.toNat := by
    simp (disch := omega) only [← memory_eq, poolSwapTail, window_mstore_outside,
      window_mstore_inside, payment]
    norm_num
    omega
  have hash : window arguments 0xd9 32 = poolKeyHash.toNat := by
    rw [← memory_eq]
    exact window_mstore_same
  rw [show 0xf9 = 0xc4 + (1 + 20 + 32) by rfl, slice_add, static, slice_add, slice_add,
    slice_eq_bigEndian _ _ 1, slice_eq_bigEndian _ _ 20, slice_eq_bigEndian _ _ 32,
    Nat.zero_add, flag, paid, hash]
  simp only [V3Swap.input, poolSwapInput, poolData, List.length_append, length_bigEndian,
    Nat.reduceAdd]

/-- A pool swap that stores its direction. -/
theorem slice_poolSwapArguments (swap : V3Swap) (self : Address) {direction : Word}
    (direction_eq : direction.toNat = swap.zeroForOne.toNat) :
    slice (poolSwapTail ((poolSwapHead memory (self.setWidth 256)).mstore 0x24 direction)
        swap.amountSpecified (V3Swap.limit swap.zeroForOne) (paymentWord swap.zeroForOne swap.token)
        swap.poolKeyHash) 0 0xf9 = swap.input self := by
  refine slice_poolSwapTail swap ?_ ?_ ?_
  · simp (disch := omega) only [poolSwapHead, window_mstore_outside, window_mstore_inside]
    decide
  · simp (disch := omega) only [poolSwapHead, window_mstore_outside, window_mstore_same,
      toNat_setWidth_address]
  · rw [window_mstore_same, direction_eq]

/-- A pool swap of token 1 on fresh memory, whose direction is zero already. -/
theorem slice_poolSwapFreshArguments (swap : V3Swap) (self : Address)
    (down : swap.zeroForOne = false) :
    slice (poolSwapTail (poolSwapHead zero (self.setWidth 256)) swap.amountSpecified
        (V3Swap.limit swap.zeroForOne) (paymentWord swap.zeroForOne swap.token) swap.poolKeyHash) 0
        0xf9 = swap.input self := by
  refine slice_poolSwapTail swap ?_ ?_ ?_
  · simp (disch := omega) only [poolSwapHead, window_mstore_outside, window_mstore_inside]
    decide
  · simp (disch := omega) only [poolSwapHead, window_mstore_same, toNat_setWidth_address]
  · simp (disch := omega) only [poolSwapHead, window_mstore_outside, window_zero, down,
      Bool.toNat_false]

end Arguments

end Sando.Huff
