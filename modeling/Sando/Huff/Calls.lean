/-
The calls the contract makes, in the ABI of the contracts it calls.

Token transfers, V2 pair swaps and V3 pool swaps as events. A V2 handler buys either the other token
or WETH, so `buyOther` and `buyWeth` fix the side of the pair and leave the other output at zero.
-/

import Sando.Evm.Abi
import Sando.Evm.Machine
import Sando.Huff.Sandwich

namespace Sando.Huff

open Sando.Evm

/-- Wrapped ether, as an address. -/
def wethAddress : Address := weth.setWidth 160

/-- `token.transfer(recipient, amount)`. -/
def erc20Transfer (token recipient : Address) (amount : ℕ) : Event :=
  .call token 0 (encodeCall 0xa9059cbb [recipient.toNat, amount])

/-- `token.transferFrom(owner, recipient, amount)`. -/
def erc20TransferFrom (token owner recipient : Address) (amount : ℕ) : Event :=
  .call token 0 (encodeCall 0x23b872dd [owner.toNat, recipient.toNat, amount])

/-- `pair.swap(amount0Out, amount1Out, recipient, "")`. -/
def pairSwap (pair : Address) (amount0Out amount1Out : ℕ) (recipient : Address) : Event :=
  .call pair 0 (encodeCall 0x022c0d9f [amount0Out, amount1Out, recipient.toNat, 0x80, 0])

/-- Take the token that is not WETH out of a pair. -/
def buyOther (pair : Address) (isWethToken0 : Bool) (amount : ℕ) (recipient : Address) : Event :=
  if isWethToken0 then pairSwap pair 0 amount recipient else pairSwap pair amount 0 recipient

/-- Take WETH out of a pair. -/
def buyWeth (pair : Address) (isWethToken0 : Bool) (amount : ℕ) (recipient : Address) : Event :=
  if isWethToken0 then pairSwap pair amount 0 recipient else pairSwap pair 0 amount recipient

/-- The calls of a V2 frontrun: pay the pair in WETH, take the other token. -/
def v2Frontrun (self pair : Address) (isWethToken0 : Bool) (spent bought : ℕ) : List Event :=
  [erc20TransferFrom wethAddress self pair spent, buyOther pair isWethToken0 bought self]

/-- The calls of a V2 backrun: pay the pair in the other token, take WETH. -/
def v2Backrun (self pair token : Address) (isWethToken0 : Bool) (spent bought : ℕ) : List Event :=
  [erc20Transfer token pair spent, buyWeth pair isWethToken0 bought self]

/-- The amount of token 1 is part of the call. -/
theorem pairSwap_amount1 {pair recipient : Address} {amount0 amount1 other1 : ℕ}
    (same : pairSwap pair amount0 amount1 recipient = pairSwap pair amount0 other1 recipient)
    (small : amount1 < 2 ^ 256) (otherSmall : other1 < 2 ^ 256) : amount1 = other1 := by
  have inputs := congrArg (fun input => argument (input ++ []) 1) (Event.call.inj same).2.2
  rw [argument_encodeCall (by simp) (by simpa using small),
    argument_encodeCall (by simp) (by simpa using otherSmall)] at inputs
  exact inputs

/-- `pool.swap(recipient, zeroForOne, amountSpecified, sqrtPriceLimitX96, data)`. -/
def poolSwapInput (recipient : Address) (zeroForOne : Bool)
    (amountSpecified sqrtPriceLimitX96 : Word) (data : List Byte) : List Byte :=
  encodeCall 0x128acb08
    [recipient.toNat, zeroForOne.toNat, amountSpecified.toNat, sqrtPriceLimitX96.toNat, 0xa0,
      data.length] ++ data

/-- A pool finds in its calldata what it was sent. -/
theorem dynamicArgument_poolSwapInput {recipient : Address} {zeroForOne : Bool}
    {amountSpecified sqrtPriceLimitX96 : Word} {data : List Byte} (fits : data.length < 256 ^ 32) :
    dynamicArgument (poolSwapInput recipient zeroForOne amountSpecified sqrtPriceLimitX96 data) 4
      = data := by
  have read := dynamicArgument_encodeCall 0x128acb08
    [recipient.toNat, zeroForOne.toNat, amountSpecified.toNat, sqrtPriceLimitX96.toNat, 0xa0] data []
    4 (by simp) fits rfl (by norm_num)
  simpa [poolSwapInput] using read

/-- And the price bound. -/
theorem argument_poolSwapInput {recipient : Address} {zeroForOne : Bool}
    {amountSpecified sqrtPriceLimitX96 : Word} {data : List Byte} :
    argument (poolSwapInput recipient zeroForOne amountSpecified sqrtPriceLimitX96 data) 3
      = sqrtPriceLimitX96.toNat :=
  argument_encodeCall (by simp) sqrtPriceLimitX96.isLt

/-- What a V3 pool is told to hand back to the callback: the direction, the token to pay with and the
hash of the pool key. -/
def poolData (zeroForOne : Bool) (token : Address) (poolKeyHash : Word) : List Byte :=
  bigEndian 1 zeroForOne.toNat ++ bigEndian 20 token.toNat ++ bigEndian 32 poolKeyHash.toNat

/-- A swap on a V3 pool. -/
structure V3Swap where
  pool : Address
  zeroForOne : Bool
  amountSpecified : Word
  token : Address
  poolKeyHash : Word
  deriving DecidableEq

namespace V3Swap

/-- The price bound of a direction. -/
def limit (zeroForOne : Bool) : Word :=
  if zeroForOne then minSqrtPriceLimitX96 else maxSqrtPriceLimitX96

/-- The calldata of the pool. -/
def input (swap : V3Swap) (self : Address) : List Byte :=
  poolSwapInput self swap.zeroForOne swap.amountSpecified (limit swap.zeroForOne)
    (poolData swap.zeroForOne swap.token swap.poolKeyHash)

/-- The call to the pool. -/
def call (swap : V3Swap) (self : Address) : Event := .call swap.pool 0 (swap.input self)

/-- The first word of memory behind the call, whose return data is written over its calldata. -/
def returned (swap : V3Swap) (self : Address) (output : List Byte) : Word :=
  wordAt (Memory.copy (byteAt (swap.input self)) 0x00 0x40 output) 0x00

/-- A pool that returns its two amounts returns the first one in front. -/
theorem returned_eq (swap : V3Swap) (self : Address) {output : List Byte}
    (whole : 0x20 ≤ output.length) : swap.returned self output = wordAt (byteAt output) 0 := by
  apply BitVec.eq_of_toNat_eq
  rw [returned, toNat_wordAt, toNat_wordAt, Memory.window_copy_same (by norm_num) whole]

/-- The hash of the pool key is part of the call. -/
theorem poolKeyHash_of_call {swap : V3Swap} {other : Word} {self : Address}
    (same : swap.call self = { swap with poolKeyHash := other }.call self) :
    swap.poolKeyHash = other := by
  have inputs := congrArg (fun input => dynamicArgument input 4) (Event.call.inj same).2.2
  simp only [input] at inputs
  rw [dynamicArgument_poolSwapInput (by simp [poolData]),
    dynamicArgument_poolSwapInput (by simp [poolData]), poolData, poolData, List.append_cancel_left_eq,
    bigEndian_inj] at inputs
  have whole (word : Word) : word.toNat % 256 ^ 32 = word.toNat := Nat.mod_eq_of_lt word.isLt
  rw [whole, whole] at inputs
  exact BitVec.eq_of_toNat_eq inputs

end V3Swap

end Sando.Huff
