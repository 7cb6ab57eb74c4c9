/-
Blocks and the block oracle.

A `Block` is a header as the block stream gives it. The oracle keeps the latest block and the next
one. Sums and products that do not fit, and a gas target of zero, are a panic.
-/

import Sando.Runner.BundleSender

namespace Sando.Runner

open Sando.Evm Sando.Simulate

structure Block where
  number : Option U64
  timestamp : Word
  baseFeePerGas : Option Word
  gasUsed : Word
  gasLimit : Word

/-- The number behind a number. -/
def nextNumber (number : U64) : Except Stop U64 :=
  if number.toNat + 1 < 2 ^ 64 then pure (number + 1) else throw .panic

def nextTimestamp (timestamp : Word) : Except Stop Word := fits (timestamp.toNat + 12)

def baseFeePerGasDelta (baseFee gasUsedDelta gasTarget : Word) : Except Stop Word := do
  let product ← fits (baseFee.toNat * gasUsedDelta.toNat)
  if gasTarget = 0 then throw .panic
  pure (product / gasTarget / 8)

def calculateNextBlockBaseFee (block : Block) : Except Stop Word := do
  let currentBaseFeePerGas := block.baseFeePerGas.getD 0
  let currentGasTarget := block.gasLimit / 2
  if block.gasUsed = currentGasTarget then pure currentBaseFeePerGas
  else if currentGasTarget < block.gasUsed then
    let delta ← baseFeePerGasDelta currentBaseFeePerGas (block.gasUsed - currentGasTarget)
      currentGasTarget
    fits (currentBaseFeePerGas.toNat + delta.toNat)
  else
    let delta ← baseFeePerGasDelta currentBaseFeePerGas (currentGasTarget - block.gasUsed)
      currentGasTarget
    match checkedSub currentBaseFeePerGas delta with
    | some baseFee => pure baseFee
    | none => throw .panic

/-- Find the next block ahead of `prevBlock`. -/
def findNextBlockInfo (prevBlock : Block) : Except Stop TargetBlock := do
  let number ← nextNumber (prevBlock.number.getD 0)
  let timestamp ← nextTimestamp prevBlock.timestamp
  let baseFee ← calculateNextBlockBaseFee prevBlock
  pure { number, timestamp, baseFee }

structure BlockOracle where
  latestBlock : TargetBlock
  nextBlock : TargetBlock

namespace BlockOracle

/-- The oracle of a bot that starts behind the latest block. -/
def new (latestBlock : Block) : Except Stop BlockOracle := do
  match latestBlock.number with
  | none => throw .panic
  | some number =>
    let timestamp := latestBlock.timestamp
    let baseFee := latestBlock.baseFeePerGas.getD 0
    let nextNumber ← nextNumber number
    let nextTimestamp ← nextTimestamp timestamp
    let nextBaseFee ← calculateNextBlockBaseFee latestBlock
    pure ⟨{ number, timestamp, baseFee }, ⟨⟨nextNumber, nextBaseFee⟩, nextTimestamp⟩⟩

variable (oracle : BlockOracle)

def updateBlockNumber (blockNumber : U64) : Except Stop BlockOracle := do
  let next ← nextNumber blockNumber
  pure {
    latestBlock := { oracle.latestBlock with number := blockNumber }
    nextBlock := { oracle.nextBlock with number := next } }

def updateBlockTimestamp (timestamp : Word) : Except Stop BlockOracle := do
  let next ← nextTimestamp timestamp
  pure {
    latestBlock := { oracle.latestBlock with timestamp }
    nextBlock := { oracle.nextBlock with timestamp := next } }

def updateBaseFee (latestBlock : Block) : Except Stop BlockOracle := do
  let next ← calculateNextBlockBaseFee latestBlock
  pure {
    latestBlock := { oracle.latestBlock with baseFee := latestBlock.baseFeePerGas.getD 0 }
    nextBlock := { oracle.nextBlock with baseFee := next } }

/-- What the block oracle does with a block of the stream. -/
def update (block : Block) : Except Stop BlockOracle := do
  match block.number with
  | none => throw .panic
  | some number =>
    let oracle ← oracle.updateBlockNumber number
    let oracle ← oracle.updateBlockTimestamp block.timestamp
    oracle.updateBaseFee block

end BlockOracle

end Sando.Runner
