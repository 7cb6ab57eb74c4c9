/-
The sandwich contract, instruction by instruction.

`main` is the macro `MAIN` of `sandwich.huff`: the entry check, one gate per handler (a `JUMPDEST`
and a jump, so that every handler is reachable through a one-byte label), the Uniswap V3 callback,
and the handlers themselves in source order. Every definition below lists the mnemonics of one label
of the source in the order they stand there; a literal is `.push`, a constant in brackets is `.push`
of its definition, a label name is `.pushLabel`.

Amounts reach the handlers packed. A V2 handler stores a 4-byte amount at a memory offset taken from
calldata, which multiplies it by a power of 256 because the ABI word it lands in starts at a fixed
place; a V3 handler shifts a 4- or 5-byte amount right by a byte taken from calldata; the call value
carries the WETH amount divided by `2 ^ 32`.
-/

import Sando.Evm.Machine

namespace Sando.Huff

open Sando.Evm

/-! ### Constants -/

/-- The global upper bound of the square root price. -/
def maxSqrtPriceLimitX96 : Word := 0xFFFD8963EFD1FC6A506488495D951D5263988D25

/-- The global lower bound of the square root price. -/
def minSqrtPriceLimitX96 : Word := 0x1000276A4

/-- The byte `0xff` and the Uniswap V3 factory, left-aligned. -/
def uniswapV3Factory : Word := 0xFF1F98431c8aD98523631AE4a59f267346ea31F9840000000000000000000000

/-- The byte `0xff` and the Pancake V3 factory, left-aligned. -/
def pancakeV3Factory : Word := 0xFF41ff9AA7e16B8B1a8a8dc4f0eFacd93D02d071c90000000000000000000000

/-- The byte `0xff` and the Sushiswap V3 factory, left-aligned. -/
def sushiswapV3Factory : Word := 0xFFbaceb8ec6b9355dfc0269c18bac9d6e2bdc29c4f0000000000000000000000

/-- The init code hash of Uniswap and Sushiswap V3 pools. -/
def uniswapPairInitCodeHash : Word :=
  0xe34f199b19b2b4f47f68442619d555527d244f78a3297ea89325f843f87b8b54

/-- The init code hash of Pancake V3 pools. -/
def pancakePairInitCodeHash : Word :=
  0x6ce8eb472fa82df5469c6ab6d485f17c3ad13c8cd7af59b3d4a8026c5ce0f7e2

/-- The only account that may trade through the contract. -/
def searcher : Word := 0x56272d28c6087752136b8b72C4fCC2993Ca5c4eF

/-- Wrapped ether. -/
def weth : Word := 0xC02aaA39b223FE8D0A0e5C4F27eAD9083C756Cc2

/-- Selector of `transfer(address to, uint value)`. -/
def transferSig : Word := 0xa9059cbb00000000000000000000000000000000000000000000000000000000

/-- Selector of `deposit()`. -/
def depositSig : Word := 0xd0e30db000000000000000000000000000000000000000000000000000000000

/-- Selector of `withdraw(uint)`. -/
def withdrawSig : Word := 0x2e1a7d4d00000000000000000000000000000000000000000000000000000000

/-- Selector of `transferFrom(address from, address to, uint value)`. -/
def transferFromSig : Word := 0x23b872dd00000000000000000000000000000000000000000000000000000000

/-- Selector of `swap(uint amount0Out, uint amount1Out, address to, bytes data)`. -/
def v2SwapSig32 : Word := 0x022c0d9f00000000000000000000000000000000000000000000000000000000

/-- The same selector, right-aligned. -/
def v2SwapSig4 : Word := 0x022c0d9f

/-- Selector of `swap(address recipient, bool zeroForOne, int256 amountSpecified,
uint160 sqrtPriceLimitX96, bytes data)`. -/
def v3SwapSig32 : Word := 0x128acb0800000000000000000000000000000000000000000000000000000000

/-! ### Labels -/

/-- The entry points, in the order of their gates. -/
inductive Handler
  | v2InputSingle | v2Output0Single | v2Output1Single | v3Input0 | v3Input1 | v3Output0
  | v3Output1 | v2InputMultiFirst | v2InputMultiNext | v2OutputMultiFirst | v2OutputMultiNext
  | prepareStack | v3Input0Multi | v3Input1Multi | v3Output0Multi | v3Output1Multi
  | arbitrageWethInput | arbitrageV2SwapToOther | arbitrageV2SwapToThis | seppuku | recoverWeth
  | depositWeth
  deriving DecidableEq

/-- The `JUMPDEST`s of the contract. `gate` is the label `*_gate` in front of a handler. -/
inductive Label
  | entryPoint | exit | gate (handler : Handler)
  | v3Callback | v3CallbackTokenTransfer | isZeroForOne
  | handler (handler : Handler) | gtfo2
  deriving DecidableEq

/-! ### The entry -/

/-- Searcher and block number together open the dispatch; everything else is a callback. -/
def entry : Code Label := [
  .push 0x00, .calldataload, .dup 1, .push 0x00, .byte, .number, .push 0xff, .and, .eq,
  .push searcher, .caller, .eq, .and, .pushLabel .entryPoint, .jumpi, .pushLabel .v3Callback,
  .jump]

/-- Jump to the label in calldata byte 1. -/
def entryPoint : Code Label := [
  .chainid, .byte, .jump]

/-! ### The callback -/

/-- Authenticate the caller as a V3 pool of one of three factories. -/
def v3Callback : Code Label := [
  .push searcher, .origin, .eq, .iszero, .pushLabel .gtfo2, .jumpi,
  .push 0x99, .calldataload,
  .push uniswapV3Factory, .push 0x00, .mstore, .push 0x15, .mstore,
  .push uniswapPairInitCodeHash, .push 0x35, .mstore,
  .push 0x55, .push 0x00, .sha3,
  .push 0x000000000000000000000000FFFFFFFFFFFFFFFFFFFFFFFFFFFFFFFFFFFFFFFF, .and,
  .caller, .eq, .pushLabel .v3CallbackTokenTransfer, .jumpi,
  .push 0x15, .mload, .push pancakeV3Factory, .push 0x00, .mstore, .push 0x15, .mstore,
  .push pancakePairInitCodeHash, .push 0x35, .mstore,
  .push 0x55, .push 0x00, .sha3,
  .push 0x000000000000000000000000FFFFFFFFFFFFFFFFFFFFFFFFFFFFFFFFFFFFFFFF, .and,
  .caller, .eq, .pushLabel .v3CallbackTokenTransfer, .jumpi,
  .push 0x15, .mload, .push sushiswapV3Factory, .push 0x00, .mstore, .push 0x15, .mstore,
  .push uniswapPairInitCodeHash, .push 0x35, .mstore,
  .push 0x55, .push 0x00, .sha3,
  .push 0x000000000000000000000000FFFFFFFFFFFFFFFFFFFFFFFFFFFFFFFFFFFFFFFF, .and,
  .caller, .eq, .pushLabel .v3CallbackTokenTransfer, .jumpi, .pushLabel .exit, .jump]

/-- Pay the pool what it is owed, for a swap of token 1. -/
def v3CallbackTokenTransfer : Code Label := [
  .push 0x00, .push 0x00, .push 0x44, .push 0x00, .push 0x00,
  .push 0x00ffffffffffffffffffffffffffffffffffffffff0000000000000000000000,
  .push 0x84, .calldataload, .and, .push 0x58, .shr,
  .push 0x84, .calldataload, .push 0xf8, .shr, .pushLabel .isZeroForOne, .jumpi,
  .push transferSig, .push 0x00, .mstore, .caller, .push 0x04, .mstore,
  .push 0x24, .calldataload, .push 0x24, .mstore,
  .gas, .call, .pushLabel .exit, .jumpi, .push 0x02, .dup 1, .revert]

/-- Pay the pool what it is owed, for a swap of token 0. -/
def isZeroForOne : Code Label := [
  .push transferSig, .push 0x00, .mstore, .caller, .push 0x04, .mstore,
  .push 0x04, .calldataload, .push 0x24, .mstore,
  .gas, .call, .pushLabel .exit, .jumpi, .chainid, .dup 1, .revert]

/-- Refuse a callback that the searcher did not start. -/
def gtfo2 : Code Label := [
  .push 0x02, .dup 1, .revert]

/-! ### The handlers -/

/-- One V2 frontrun. -/
def v2InputSingle : Code Label := [
  .push 0x00, .push 0x00, .push 0xA4, .push 0x00, .push 0x00,
  .push 0x03, .calldataload, .push 0x60, .shr,
  .push transferFromSig, .push 0x00, .mstore, .address, .push 0x04, .mstore,
  .callvalue, .push 0x40, .mstore, .dup 1, .push 0x24, .mstore,
  .push 0x00, .push 0x00, .push 0x64, .push 0x00, .push 0x00, .push weth, .gas, .call, .pop,
  .push v2SwapSig32, .push 0x00, .mstore, .push 0x00, .push 0x04, .mstore,
  .push 0x00, .push 0x24, .mstore,
  .push 0x17, .calldataload, .chainid, .calldataload, .chainid, .byte, .mstore,
  .address, .push 0x44, .mstore, .push 0x80, .push 0x64, .mstore,
  .gas, .call, .pushLabel .exit, .jumpi, .push 0x00, .dup 1, .revert]

/-- One V2 backrun, WETH is token 0. -/
def v2Output0Single : Code Label := [
  .push 0x00, .push 0x00, .push 0xA4, .push 0x00, .push 0x00,
  .push 0x03, .calldataload, .push 0x60, .shr,
  .push transferSig, .push 0x00, .mstore, .dup 1, .push 0x04, .mstore,
  .push 0x2b, .calldataload, .chainid, .calldataload, .chainid, .byte, .mstore,
  .push 0x00, .push 0x00, .push 0x44, .push 0x00, .push 0x00,
  .push 0x17, .calldataload, .push 0x60, .shr, .gas, .call, .pop,
  .push 0x00, .push 0x04, .mstore, .push 0x00, .push 0x24, .mstore,
  .push v2SwapSig32, .callvalue, .add, .push 0x00, .mstore, .address, .push 0x44, .mstore,
  .push 0x80, .push 0x64, .mstore,
  .gas, .call, .pushLabel .exit, .jumpi, .push 0x00, .dup 1, .revert]

/-- One V2 backrun, WETH is token 1. -/
def v2Output1Single : Code Label := [
  .push 0x00, .push 0x00, .push 0xA4, .push 0x00, .push 0x00,
  .push 0x03, .calldataload, .push 0x60, .shr,
  .push transferSig, .push 0x00, .mstore, .dup 1, .push 0x04, .mstore,
  .push 0x2b, .calldataload, .chainid, .calldataload, .chainid, .byte, .mstore,
  .push 0x00, .push 0x00, .push 0x44, .push 0x00, .push 0x00,
  .push 0x17, .calldataload, .push 0x60, .shr, .gas, .call, .pop,
  .push v2SwapSig32, .push 0x00, .mstore, .push 0x00, .push 0x04, .mstore,
  .callvalue, .push 0x20, .mstore, .address, .push 0x44, .mstore, .push 0x80, .push 0x64, .mstore,
  .gas, .call, .pushLabel .exit, .jumpi, .push 0x00, .dup 1, .revert]

/-- The first segment of a chain, a V2 frontrun. -/
def v2InputMultiFirst : Code Label := [
  .push 0x00, .push 0x00, .push 0xA4, .push 0x00, .push 0x00,
  .push 0x03, .calldataload, .push 0x60, .shr,
  .push 0x17, .calldataload,
  .push 0xffffffff00000000000000000000000000000000000000000000000000000000, .and,
  .chainid, .calldataload, .chainid,
  .push 0x00, .push 0x00, .push v2SwapSig32, .push 0x00,
  .push transferFromSig, .push 0x00, .mstore, .address, .push 0x04, .mstore,
  .callvalue, .push 0x40, .mstore, .dup 8, .push 0x24, .mstore,
  .push 0x00, .push 0x00, .push 0x64, .push 0x00, .push 0x00, .push weth, .gas, .call, .pop,
  .mstore, .push 0x04, .mstore, .push 0x24, .mstore,
  .byte, .mstore,
  .address, .push 0x44, .mstore, .push 0x80, .push 0x64, .mstore,
  .gas, .call, .push 0x1b, .swap 1, .push 0x1a, .calldataload, .chainid, .byte, .jumpi,
  .push 0x00, .dup 1, .revert]

/-- A later segment of a chain, a V2 frontrun. -/
def v2InputMultiNext : Code Label := [
  .push 0x00, .push 0x00, .push 0xA4, .push 0x00, .push 0x00, .dup 6, .push 0x02, .add,
  .calldataload, .push 0x60, .shr,
  .push transferFromSig, .push 0x00, .mstore, .address, .push 0x04, .mstore,
  .push 0x00, .push 0x44, .mstore,
  .dup 7, .push 0x1a, .add, .calldataload, .push 0xd8, .shr, .push 0x40, .mstore,
  .dup 1, .push 0x24, .mstore,
  .push 0x00, .push 0x00, .push 0x64, .push 0x00, .push 0x00, .push weth, .gas, .call, .pop,
  .push v2SwapSig32, .push 0x00, .mstore, .push 0x00, .push 0x04, .mstore,
  .push 0x00, .push 0x24, .mstore,
  .dup 7, .push 0x16, .add, .calldataload,
  .push 0xffffffff00000000000000000000000000000000000000000000000000000000, .and, .dup 8,
  .calldataload, .chainid, .byte, .mstore, .address, .push 0x44, .mstore,
  .push 0x80, .push 0x64, .mstore, .push 0x00, .push 0x84, .mstore, .gas, .call,
  .swap 1, .push 0x1f, .add, .swap 1, .dup 2, .calldataload, .push 0x00, .byte, .jumpi, .chainid,
  .dup 1, .revert]

/-- The first segment of a chain, a V2 backrun. -/
def v2OutputMultiFirst : Code Label := [
  .push 0x00, .push 0x00, .push 0xA4, .push 0x40, .push 0x00,
  .push 0x03, .calldataload, .push 0x60, .shr,
  .push transferSig, .push 0x00, .mstore, .dup 1, .push 0x04, .mstore,
  .push 0x2b, .calldataload,
  .push 0xffffffff00000000000000000000000000000000000000000000000000000000, .and,
  .chainid, .calldataload, .chainid, .byte, .mstore,
  .push 0x00, .push 0x00, .push 0x44, .push 0x00, .push 0x00,
  .push 0x17, .calldataload, .push 0x60, .shr, .gas, .call, .pop,
  .callvalue, .push 0x2e, .calldataload, .chainid, .byte, .mstore,
  .push v2SwapSig4, .push 0x24, .mstore, .address, .push 0x84, .mstore,
  .push 0x80, .push 0xa4, .mstore,
  .gas, .call, .push 0x30, .swap 1, .push 0x2f, .calldataload, .chainid, .byte, .jumpi,
  .push 0x00, .dup 1, .revert]

/-- A later segment of a chain, a V2 backrun. -/
def v2OutputMultiNext : Code Label := [
  .push 0x00, .push 0x24, .mstore, .push 0x00, .push 0x00, .push 0xa4, .push 0x40, .push 0x00,
  .dup 6, .push 0x02, .add, .calldataload, .push 0x60, .shr,
  .push transferSig, .dup 3, .mstore, .dup 7, .push 0x2a, .add, .calldataload,
  .push 0xffffffff00000000000000000000000000000000000000000000000000000000, .and,
  .dup 8, .calldataload, .chainid, .byte, .mstore, .dup 1, .push 0x04, .mstore,
  .push 0x00, .push 0x00, .push 0x44, .push 0x00, .push 0x00, .dup 12, .push 0x16, .add,
  .calldataload, .push 0x60, .shr, .gas, .call, .pop,
  .push 0x00, .push 0x44, .mstore, .push 0x00, .push 0x64, .mstore, .dup 7, .push 0x13, .add,
  .calldataload, .push 0x000000000000000000000000000000000000000000000000000000ffffffffff, .and,
  .dup 8, .push 0x32, .add, .calldataload, .chainid, .byte, .mstore,
  .push v2SwapSig4, .push 0x24, .mstore, .address, .push 0x84, .mstore,
  .push 0x80, .push 0xa4, .mstore, .push 0x00, .push 0xc4, .mstore, .gas, .call,
  .swap 1, .push 0x34, .add, .swap 1, .dup 2, .calldataload, .push 0x00, .byte, .jumpi, .chainid,
  .dup 1, .revert]

/-- One V3 frontrun, WETH is token 0. -/
def v3Input0 : Code Label := [
  .push v3SwapSig32, .push 0x00, .mstore, .address, .push 0x04, .mstore,
  .chainid, .push 0x24, .mstore, .push 0x17, .calldataload,
  .push 0xffffffffff000000000000000000000000000000000000000000000000000000, .and,
  .push 0x16, .calldataload, .push 0x00, .byte, .shr, .push 0x00, .sub, .push 0x44, .mstore,
  .push minSqrtPriceLimitX96, .push 0x64, .mstore,
  .push 0xa0, .push 0x84, .mstore, .push 0x35, .push 0xa4, .mstore,
  .push 0x0100000000000000000000000000000000000000000000000000000000000000,
  .push weth, .push 0x58, .shl, .add, .push 0xc4, .mstore,
  .push 0x1b, .calldataload, .push 0xd9, .mstore,
  .push 0x40, .push 0x00, .push 0xf9, .push 0x00, .push 0x00,
  .push 0x02, .calldataload, .push 0x60, .shr, .gas, .call, .push 0x00, .mload,
  .callvalue, .push 0x20, .shl, .gt, .and, .pushLabel .exit, .jumpi, .push 0x00, .dup 1, .revert]

/-- One V3 frontrun, WETH is token 1. -/
def v3Input1 : Code Label := [
  .push v3SwapSig32, .push 0x00, .mstore, .address, .push 0x04, .mstore,
  .callvalue, .push 0x20, .shl, .push 0x44, .mstore,
  .push maxSqrtPriceLimitX96, .push 0x64, .mstore,
  .push 0xa0, .push 0x84, .mstore, .push 0x35, .push 0xa4, .mstore,
  .push weth, .push 0x58, .shl, .push 0xc4, .mstore,
  .push 0x1b, .calldataload, .push 0xd9, .mstore,
  .push 0x40, .push 0x00, .push 0xf9, .push 0x00, .push 0x00,
  .push 0x02, .calldataload, .push 0x60, .shr, .gas, .call,
  .push 0x00, .mload, .push 0x00, .sub, .push 0x17, .calldataload,
  .push 0xffffffff00000000000000000000000000000000000000000000000000000000, .and,
  .push 0x16, .calldataload, .push 0x00, .byte, .shr, .lt, .and, .pushLabel .exit, .jumpi,
  .push 0x00, .dup 1, .revert]

/-- One V3 backrun, WETH is token 0. -/
def v3Output0 : Code Label := [
  .push v3SwapSig32, .push 0x00, .mstore, .address, .push 0x04, .mstore,
  .push 0x17, .calldataload,
  .push 0xffffffffff000000000000000000000000000000000000000000000000000000, .and,
  .push 0x16, .calldataload, .push 0x00, .byte, .shr, .push 0x44, .mstore,
  .push maxSqrtPriceLimitX96, .push 0x64, .mstore,
  .push 0xa0, .push 0x84, .mstore, .push 0x35, .push 0xa4, .mstore,
  .push 0x1c, .calldataload, .push 0x60, .shr, .push 0x58, .shl, .push 0xc4, .mstore,
  .push 0x30, .calldataload, .push 0xd9, .mstore,
  .push 0x40, .push 0x00, .push 0xf9, .push 0x00, .push 0x00,
  .push 0x02, .calldataload, .push 0x60, .shr, .gas, .call, .push 0x00, .mload, .push 0x00, .sub,
  .callvalue, .push 0x20, .shl, .lt, .and, .pushLabel .exit, .jumpi, .push 0x00, .dup 1, .revert]

/-- One V3 backrun, WETH is token 1. -/
def v3Output1 : Code Label := [
  .push v3SwapSig32, .push 0x00, .mstore, .address, .push 0x04, .mstore,
  .chainid, .push 0x24, .mstore, .callvalue, .push 0x20, .shl, .push 0x00, .sub,
  .push 0x44, .mstore, .push minSqrtPriceLimitX96, .push 0x64, .mstore,
  .push 0xa0, .push 0x84, .mstore, .push 0x35, .push 0xa4, .mstore,
  .push 0x0100000000000000000000000000000000000000000000000000000000000000,
  .push 0x1c, .calldataload, .push 0x60, .shr, .push 0x58, .shl, .add, .push 0xc4, .mstore,
  .push 0x30, .calldataload, .push 0xd9, .mstore,
  .push 0x40, .push 0x00, .push 0xf9, .push 0x00, .push 0x00,
  .push 0x02, .calldataload, .push 0x60, .shr, .gas, .call, .push 0x00, .mload,
  .push 0x17, .calldataload,
  .push 0xffffffffff000000000000000000000000000000000000000000000000000000, .and,
  .push 0x16, .calldataload, .push 0x00, .byte, .shr, .gt, .and, .pushLabel .exit, .jumpi,
  .push 0x00, .dup 1, .revert]

/-- A segment of a chain, a V3 frontrun, WETH is token 0. -/
def v3Input0Multi : Code Label := [
  .push v3SwapSig32, .push 0x00, .mstore, .address, .push 0x04, .mstore,
  .chainid, .push 0x24, .mstore,
  .dup 1, .push 0x1b, .add, .calldataload,
  .push 0xffffffffff000000000000000000000000000000000000000000000000000000, .and,
  .dup 2, .push 0x1a, .add, .calldataload, .push 0x00, .byte, .shr, .push 0x00, .sub,
  .push 0x44, .mstore, .push minSqrtPriceLimitX96, .push 0x64, .mstore,
  .push 0xa0, .push 0x84, .mstore, .push 0x35, .push 0xa4, .mstore,
  .push 0x0100000000000000000000000000000000000000000000000000000000000000,
  .push weth, .push 0x58, .shl, .add, .push 0xc4, .mstore, .dup 1, .push 0x20, .add,
  .calldataload, .push 0xd9, .mstore,
  .push 0x40, .push 0x00, .push 0xf9, .push 0x00, .push 0x00,
  .dup 6, .chainid, .add, .calldataload, .push 0x60, .shr, .gas, .call, .push 0x00, .mload,
  .dup 3, .push 0x16, .add, .calldataload,
  .push 0xffffffff00000000000000000000000000000000000000000000000000000000, .and,
  .dup 4, .push 0x15, .add, .calldataload, .push 0x00, .byte, .shr, .gt, .and,
  .swap 1, .push 0x40, .add, .swap 1, .dup 2, .calldataload, .push 0x00, .byte, .jumpi, .chainid,
  .dup 1, .revert]

/-- A segment of a chain, a V3 frontrun, WETH is token 1. -/
def v3Input1Multi : Code Label := [
  .push v3SwapSig32, .push 0x00, .mstore, .address, .push 0x04, .mstore,
  .push 0x00, .push 0x24, .mstore,
  .dup 1, .push 0x16, .add, .calldataload,
  .push 0xffffffff00000000000000000000000000000000000000000000000000000000, .and,
  .dup 2, .push 0x15, .add, .calldataload, .push 0x00, .byte, .shr, .push 0x44, .mstore,
  .push maxSqrtPriceLimitX96, .push 0x64, .mstore,
  .push 0xa0, .push 0x84, .mstore, .push 0x35, .push 0xa4, .mstore,
  .push weth, .push 0x58, .shl, .push 0xc4, .mstore, .dup 1, .push 0x20, .add,
  .calldataload, .push 0xd9, .mstore,
  .push 0x40, .push 0x00, .push 0xf9, .push 0x00, .push 0x00,
  .dup 6, .chainid, .add, .calldataload, .push 0x60, .shr, .gas, .call,
  .push 0x00, .mload, .push 0x01, .sub,
  .dup 3, .push 0x1b, .add, .calldataload,
  .push 0xffffffffff000000000000000000000000000000000000000000000000000000, .and,
  .dup 4, .push 0x1a, .add, .calldataload, .push 0x00, .byte, .shr, .lt, .and,
  .swap 1, .push 0x40, .add, .swap 1, .dup 2, .calldataload, .push 0x00, .byte, .jumpi, .chainid,
  .dup 1, .revert]

/-- A segment of a chain, a V3 backrun, WETH is token 0. -/
def v3Output0Multi : Code Label := [
  .push v3SwapSig32, .push 0x00, .mstore, .address, .push 0x04, .mstore,
  .push 0x00, .push 0x24, .mstore,
  .dup 1, .push 0x1b, .add, .calldataload,
  .push 0xffffffffff000000000000000000000000000000000000000000000000000000, .and,
  .dup 2, .push 0x1a, .add, .calldataload, .push 0x00, .byte, .shr, .push 0x44, .mstore,
  .push maxSqrtPriceLimitX96, .push 0x64, .mstore,
  .push 0xa0, .push 0x84, .mstore, .push 0x35, .push 0xa4, .mstore,
  .dup 1, .push 0x20, .add, .calldataload, .push 0x60, .shr, .push 0x58, .shl,
  .push 0xc4, .mstore, .dup 1, .push 0x34, .add, .calldataload, .push 0xd9, .mstore,
  .push 0x40, .push 0x00, .push 0xf9, .push 0x00, .push 0x00,
  .dup 6, .chainid, .add, .calldataload, .push 0x60, .shr, .gas, .call, .push 0x00, .mload,
  .push 0x01, .sub, .dup 3, .push 0x16, .add, .calldataload,
  .push 0xffffffff00000000000000000000000000000000000000000000000000000000, .and,
  .dup 4, .push 0x15, .add, .calldataload, .push 0x00, .byte, .shr, .lt, .and,
  .swap 1, .push 0x54, .add, .swap 1, .dup 2, .calldataload, .push 0x00, .byte, .jumpi, .chainid,
  .dup 1, .revert]

/-- A segment of a chain, a V3 backrun, WETH is token 1. -/
def v3Output1Multi : Code Label := [
  .push v3SwapSig32, .push 0x00, .mstore, .address, .push 0x04, .mstore,
  .chainid, .push 0x24, .mstore,
  .dup 1, .push 0x16, .add, .calldataload,
  .push 0xffffffff00000000000000000000000000000000000000000000000000000000, .and,
  .dup 2, .push 0x15, .add, .calldataload, .push 0x00, .byte, .shr, .push 0x00, .sub,
  .push 0x44, .mstore, .push minSqrtPriceLimitX96, .push 0x64, .mstore,
  .push 0xa0, .push 0x84, .mstore, .push 0x35, .push 0xa4, .mstore,
  .push 0x0100000000000000000000000000000000000000000000000000000000000000,
  .dup 2, .push 0x20, .add, .calldataload, .push 0x60, .shr, .push 0x58, .shl,
  .add, .push 0xc4, .mstore, .dup 1, .push 0x34, .add, .calldataload, .push 0xd9, .mstore,
  .push 0x40, .push 0x00, .push 0xf9, .push 0x00, .push 0x00,
  .dup 6, .chainid, .add, .calldataload, .push 0x60, .shr, .gas, .call, .push 0x00, .mload,
  .dup 3, .push 0x1b, .add, .calldataload,
  .push 0xffffffffff000000000000000000000000000000000000000000000000000000, .and,
  .dup 4, .push 0x1a, .add, .calldataload, .push 0x00, .byte, .shr, .gt, .and,
  .swap 1, .push 0x54, .add, .swap 1, .dup 2, .calldataload, .push 0x00, .byte, .jumpi, .chainid,
  .dup 1, .revert]

/-- Put the cursor on the stack for a chain that starts with a later segment. -/
def prepareStack : Code Label := [
  .push 0x02, .chainid, .calldataload, .chainid, .byte, .jump]

/-- Fund the first pool of an arbitrage path. -/
def arbitrageWethInput : Code Label := [
  .push transferFromSig, .push 0x00, .mstore, .address, .push 0x04, .mstore, .dup 1, .push 0x08,
  .add, .calldataload, .push 0x60, .shr, .push 0x24, .mstore, .push 0x00, .push 0x44, .mstore,
  .dup 1, .chainid, .add, .calldataload,
  .push 0xffffffffff000000000000000000000000000000000000000000000000000000, .and,
  .push 0x5b, .mstore,
  .push 0x00, .dup 1, .push 0x64, .dup 2, .dup 1, .push weth, .gas, .call, .pop,
  .push 0x06, .add, .dup 1, .calldataload, .push 0x00, .byte, .jump]

/-- A hop of an arbitrage path that pays the next pool. -/
def arbitrageV2SwapToOther : Code Label := [
  .push 0x00, .push 0x04, .mstore, .push 0x00, .push 0x24, .mstore,
  .push v2SwapSig32, .push 0x00, .mstore,
  .dup 1, .push 0x16, .add, .calldataload,
  .push 0xffffffff00000000000000000000000000000000000000000000000000000000, .and,
  .dup 2, .calldataload, .chainid, .byte, .mstore,
  .dup 1, .push 0x1c, .add, .calldataload, .push 0x60, .shr, .push 0x44, .mstore,
  .push 0x80, .push 0x64, .mstore, .push 0x00, .push 0x84, .mstore,
  .push 0x00, .dup 1, .push 0xa4, .dup 2, .dup 1, .dup 6, .push 0x02, .add,
  .calldataload, .push 0x60, .shr, .gas, .call, .swap 1, .push 0x1a, .add, .swap 1, .dup 2,
  .calldataload, .push 0x00, .byte, .jumpi,
  .push 0x00, .dup 1, .revert]

/-- The last hop of an arbitrage path. -/
def arbitrageV2SwapToThis : Code Label := [
  .push 0x00, .push 0x04, .mstore, .push 0x00, .push 0x24, .mstore,
  .push v2SwapSig32, .push 0x00, .mstore,
  .dup 1, .push 0x16, .add, .calldataload,
  .push 0xffffffff00000000000000000000000000000000000000000000000000000000, .and,
  .dup 2, .calldataload, .chainid, .byte, .mstore,
  .address, .push 0x44, .mstore, .push 0x80, .push 0x64, .mstore, .push 0x00, .push 0x84, .mstore,
  .push 0x00, .dup 1, .push 0xa4, .dup 2, .dup 1, .dup 6, .push 0x02, .add,
  .calldataload, .push 0x60, .shr, .gas, .call, .swap 1, .push 0x1a, .add, .swap 1, .dup 2,
  .calldataload, .push 0x00, .byte, .jumpi,
  .push 0x00, .dup 1, .revert]

/-- Destroy the contract. -/
def seppuku : Code Label := [
  .caller, .selfdestruct, .stop]

/-- Unwrap WETH and send all ether to the searcher. -/
def recoverWeth : Code Label := [
  .push withdrawSig, .callvalue, .add, .push 0x00, .mstore,
  .push 0x00, .push 0x00, .push 0x24, .push 0x00, .push 0x00, .push weth, .gas, .call,
  .push 0x00, .push 0x00, .push 0x00, .push 0x00, .selfbalance, .caller, .gas, .call, .and,
  .pushLabel .exit, .jumpi, .push 0x00, .dup 1, .revert]

/-- Wrap the call value. -/
def depositWeth : Code Label := [
  .push depositSig, .push 0x00, .mstore,
  .push 0x00, .push 0x00, .push 0x04, .push 0x00, .callvalue, .push weth, .gas, .call,
  .pushLabel .exit, .jumpi, .push 0x00, .dup 1, .revert]

namespace Handler

/-- The handlers in the order of their gates. -/
def all : List Handler := [
  .v2InputSingle, .v2Output0Single, .v2Output1Single, .v3Input0, .v3Input1, .v3Output0,
  .v3Output1, .v2InputMultiFirst, .v2InputMultiNext, .v2OutputMultiFirst, .v2OutputMultiNext,
  .prepareStack, .v3Input0Multi, .v3Input1Multi, .v3Output0Multi, .v3Output1Multi,
  .arbitrageWethInput, .arbitrageV2SwapToOther, .arbitrageV2SwapToThis, .seppuku, .recoverWeth,
  .depositWeth]

/-- The handlers in the order of their bodies. -/
def bodies : List Handler := [
  .v2InputSingle, .v2Output0Single, .v2Output1Single, .v2InputMultiFirst, .v2InputMultiNext,
  .v2OutputMultiFirst, .v2OutputMultiNext, .v3Input0, .v3Input1, .v3Output0, .v3Output1,
  .v3Input0Multi, .v3Input1Multi, .v3Output0Multi, .v3Output1Multi, .prepareStack,
  .arbitrageWethInput, .arbitrageV2SwapToOther, .arbitrageV2SwapToThis, .seppuku, .recoverWeth,
  .depositWeth]

/-- The instructions behind the label of a handler. -/
def code : Handler → Code Label
  | .v2InputSingle => Huff.v2InputSingle
  | .v2Output0Single => Huff.v2Output0Single
  | .v2Output1Single => Huff.v2Output1Single
  | .v3Input0 => Huff.v3Input0
  | .v3Input1 => Huff.v3Input1
  | .v3Output0 => Huff.v3Output0
  | .v3Output1 => Huff.v3Output1
  | .v2InputMultiFirst => Huff.v2InputMultiFirst
  | .v2InputMultiNext => Huff.v2InputMultiNext
  | .v2OutputMultiFirst => Huff.v2OutputMultiFirst
  | .v2OutputMultiNext => Huff.v2OutputMultiNext
  | .prepareStack => Huff.prepareStack
  | .v3Input0Multi => Huff.v3Input0Multi
  | .v3Input1Multi => Huff.v3Input1Multi
  | .v3Output0Multi => Huff.v3Output0Multi
  | .v3Output1Multi => Huff.v3Output1Multi
  | .arbitrageWethInput => Huff.arbitrageWethInput
  | .arbitrageV2SwapToOther => Huff.arbitrageV2SwapToOther
  | .arbitrageV2SwapToThis => Huff.arbitrageV2SwapToThis
  | .seppuku => Huff.seppuku
  | .recoverWeth => Huff.recoverWeth
  | .depositWeth => Huff.depositWeth

/-- The place of the gate of a handler among all gates. -/
def index (handler : Handler) : ℕ := all.idxOf handler

end Handler

/-! ### MAIN -/

/-- The gates: `JUMPDEST`, `PUSH2`, `JUMP` for each handler. -/
def gates : Code Label :=
  Handler.all.flatMap fun handler => [.label (.gate handler), .pushLabel (.handler handler), .jump]

/-- The callback and its two payment branches. -/
def callback : Code Label :=
  .label .v3Callback :: v3Callback
    ++ .label .v3CallbackTokenTransfer :: v3CallbackTokenTransfer
    ++ .label .isZeroForOne :: isZeroForOne

/-- The handler bodies. -/
def handlerBodies : Code Label :=
  Handler.bodies.flatMap fun handler => .label (.handler handler) :: handler.code

/-- The contract. -/
def main : Code Label :=
  entry ++ .label .entryPoint :: entryPoint ++ [.label .exit, .stop] ++ gates ++ callback
    ++ handlerBodies ++ .label .gtfo2 :: gtfo2

end Sando.Huff
