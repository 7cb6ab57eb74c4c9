/-
The two simulators.

`evaluateSandwichRevenue` tries one frontrun amount with a router contract; `sanityCheck` builds the
payloads of all opportunities, runs them against the sandwich contract and returns what to send. Both
run the frontrun, the meats and the backrun on one EVM. The loops are recursions with what they have
collected as an argument.
-/

import Mathlib.Data.List.Destutter
import Mathlib.Data.List.Sort
import Sando.Simulate.Evm
import Sando.TxBuilder.V2
import Sando.TxBuilder.V3

namespace Sando.Simulate

open Sando.Evm Sando.Program Sando.TxBuilder

/-! ### Constants -/

def braindanceAddress : Address := 0xF3370000

def braindanceControllerAddress : Address := 0x420BABE

def braindanceStartingBalance : Word := 420000000000000000000

/-! ### Meats -/

/-- Write a meat into the environment. The gas price of a meat without a type is read differently by
the two simulators. -/
def loadMeat (untypedGasPrice : Option Word → Simulation Word) (meat : Meat) : Simulation Unit := do
  let chainId ← meat.chainId.mapM toU64
  let gas ← toU64 meat.gas
  setTx fun tx => { tx with
    caller := meat.fromAddress, transactTo := meat.toAddress.getD 0, data := meat.input
    value := meat.value, chainId, gasLimit := gas.toNat }
  match meat.transactionType with
  | some 0 =>
    -- legacy tx
    setTx fun tx => { tx with gasPrice := meat.gasPrice.getD 0 }
  | some _ =>
    -- type 2 tx
    setTx fun tx => { tx with
      gasPriorityFee := meat.maxPriorityFeePerGas, gasPrice := meat.maxFeePerGas.getD 0 }
  | none => do
    -- legacy tx
    let price ← untypedGasPrice meat.gasPrice
    setTx fun tx => { tx with gasPrice := price }

/-- A missing gas price is zero. -/
def unwrapOrDefault (price : Option Word) : Simulation Word := pure (price.getD 0)

/-- A missing gas price is a panic. -/
def unwrap (price : Option Word) : Simulation Word := ofOption .panic price

/-- Run the meats, whatever becomes of them. -/
def runMeats : List Meat → Simulation Unit
  | [] => pure ()
  | meat :: meats => do
    loadMeat unwrapOrDefault meat
    let _ ← runTx .transactCommit (.meat meat)
    runMeats meats

/-- Sorted by hash, without repetitions. -/
def sortMeats (meats : List Meat) : List Meat :=
  (meats.insertionSort fun first second => first.hash ≤ second.hash).destutter (· ≠ ·)

/-! ### Payloads -/

/-- The data of the router's swap. -/
def buildSwapData (pool : TargetPool) (amountIn : Word) (tokenIn tokenOut : Address) :
    Simulation (List Byte) :=
  match pool.poolVariant with
  | .uniswapV2 => pure (encodeCall 0x81eeb93c
      [amountIn.toNat, pool.address.toNat, tokenIn.toNat, tokenOut.toNat])
  | .uniswapV3 => do
    let amountIn ← asU128 amountIn
    pure (encodeCall 0x4b588d40
      [amountIn.toNat, pool.address.toNat, tokenIn.toNat, tokenOut.toNat])

/-- What the loops over the ingredients collect. -/
structure Bundle where
  data : List Byte
  value : Word

/-- Put a segment behind the ones before it. -/
def Bundle.extend (bundle : Bundle) (segment : List Byte × Word) : Simulation Bundle := do
  let value ← u256 (bundle.value.toNat + segment.2.toNat)
  pure ⟨bundle.data ++ segment.1, value⟩

/-- The label that ends a payload of several swaps. -/
def Bundle.finish (isMultiple : Bool) (bundle : Bundle) : Bundle :=
  if isMultiple then { bundle with data := bundle.data ++ [getEndOfMultiPayload] } else bundle

/-- What is left of an amount of the intermediary token after encoding. -/
def decodeIntermediary (ingredients : RawIngredients) (amount : Word) : Option ℕ :=
  match ingredients.targetPool.poolVariant with
  | .uniswapV2 => V2.decodeIntermediary amount.toNat true ingredients.intermediaryToken
  | .uniswapV3 => V3.decodeIntermediary amount.toNat

/-- The amount of the intermediary token to sell, with some dust kept. -/
def encodeIntermediaryToken (ingredients : RawIngredients) (amount : Word) : Option ℕ :=
  match ingredients.targetPool.poolVariant with
  | .uniswapV2 => V2.encodeIntermediaryToken amount.toNat false ingredients.intermediaryToken
  | .uniswapV3 => V3.encodeIntermediaryToken amount.toNat

/-- What the frontrun loop leaves behind. -/
structure Frontruns where
  bundle : Bundle
  backrunIns : List Word
  ingredients : List RawIngredients

/-- What to send. -/
structure OptimalRecipe where
  frontrun : Bundle
  frontrunGasUsed : ℕ
  frontrunAccessList : AccessList
  backrun : Bundle
  backrunGasUsed : ℕ
  backrunAccessList : AccessList
  meats : List Meat
  revenue : Word
  targetPools : List TargetPool

namespace Setup

variable (setup : Setup)

/-! ### The revenue of one amount -/

/-- Call the router and decode the amount out and the balance it returns. -/
def braindance (role : Role) (failed halted : SimulationError)
    (reverted : List Byte → SimulationError) (data : List Byte) : Simulation (Word × Word) := do
  setTx fun tx => { tx with
    caller := braindanceControllerAddress, transactTo := braindanceAddress, data, value := 0
    gasLimit := 700000, gasPrice := setup.baseFee }
  match setup.backend.answer (← runTx .transactCommit role) with
  | .evmError => throw (.error failed)
  | .success output _ =>
    if output.length < 64 then throw (.error .failedToDecodeOutput)
    else pure (wordAt (byteAt output) 0, wordAt (byteAt output) 32)
  | .revert output _ => throw (.error (reverted output))
  | .halt _ => throw (.error halted)

/-- Sandwich simulation using the router contract. -/
def evaluateSandwichRevenue (frontrunIn : Word) (ingredients : RawIngredients) :
    Simulation Word := do
  let pool := ingredients.targetPool
  let frontrunData ← buildSwapData pool frontrunIn ingredients.startendToken
    ingredients.intermediaryToken
  let (_, backrunIn) ← setup.braindance .frontrun .frontrunEvmError .frontrunHalted
    .frontrunReverted frontrunData
  runMeats ingredients.meats
  let backrunData ← buildSwapData pool backrunIn ingredients.intermediaryToken
    ingredients.startendToken
  let (_, postSandwichBalance) ← setup.braindance .backrun .backrunEvmError .backrunHalted
    .backrunReverted backrunData
  pure ((checkedSub postSandwichBalance braindanceStartingBalance).getD 0)

/-! ### The sanity check -/

/-- The block number, as the builders take it. -/
def blockNumber : Word := setup.nextBlock.number.setWidth 256

/-- The payload of a frontrun. -/
def frontrunPayload (isMultiple isFirst : Bool) (frontrunIn frontrunOut : Word)
    (ingredients : RawIngredients) : Simulation (List Byte × Word) := do
  let pool := ingredients.targetPool
  match pool.poolVariant with
  | .uniswapV2 =>
    if isMultiple then
      ofOption .panic (V2.createMultiPayloadWethIsInput setup.blockNumber frontrunIn frontrunOut
        ingredients.intermediaryToken pool.toPool isFirst)
    else
      ofOption .panic (V2.createPayloadWethIsInput setup.blockNumber frontrunIn frontrunOut
        ingredients.intermediaryToken pool.toPool)
  | .uniswapV3 => do
    let amountIn ← asU128 frontrunIn
    let amountOut ← asU128 frontrunOut
    if isMultiple then
      ofOption .panic (V3.createMultiPayloadWethIsInput setup.keccak setup.blockNumber amountIn
        amountOut ingredients.startendToken ingredients.intermediaryToken pool.toPool isFirst)
    else
      ofOption .panic (V3.createPayloadWethIsInput setup.keccak setup.blockNumber amountIn
        amountOut ingredients.startendToken ingredients.intermediaryToken pool.toPool)

/-- The payload of a backrun. -/
def backrunPayload (isMultiple isFirst : Bool) (backrunIn backrunOut : Word)
    (ingredients : RawIngredients) : Simulation (List Byte × Word) := do
  let pool := ingredients.targetPool
  match pool.poolVariant with
  | .uniswapV2 =>
    if isMultiple then
      ofOption .panic (V2.createMultiPayloadWethIsOutput setup.blockNumber backrunIn backrunOut
        ingredients.intermediaryToken pool.toPool isFirst)
    else
      ofOption .panic (V2.createPayloadWethIsOutput setup.blockNumber backrunIn backrunOut
        ingredients.intermediaryToken pool.toPool)
  | .uniswapV3 => do
    let amountIn ← asU128 backrunIn
    let amountOut ← asU128 backrunOut
    if isMultiple then
      ofOption .panic (V3.createMultiPayloadWethIsOutput setup.keccak setup.blockNumber amountIn
        amountOut ingredients.intermediaryToken ingredients.startendToken pool.toPool isFirst)
    else
      ofOption .panic (V3.createPayloadWethIsOutput setup.keccak setup.blockNumber amountIn
        amountOut ingredients.intermediaryToken ingredients.startendToken pool.toPool)

/-- Ask the pool for an amount out. -/
def getAmountOut (pool : TargetPool) (amountIn : Word) (tokenIn tokenOut : Address) :
    Simulation Word :=
  match pool.poolVariant with
  | .uniswapV2 => setup.getAmountOutEvmV2 amountIn pool.address tokenIn tokenOut
  | .uniswapV3 => setup.getAmountOutEvmV3 amountIn tokenIn tokenOut pool.swapFee

/-- Prepare one frontrun segment. -/
def frontrunSegment (isMultiple : Bool) (index : ℕ) (frontrunIn : Word)
    (ingredients : RawIngredients) (frontruns : Frontruns) : Simulation Frontruns := do
  -- caluclate frontrun_out using encoded frontrun_in
  setTx fun tx => { tx with gasPrice := setup.baseFee, gasLimit := 700000, value := 0 }
  let tokenIn := ingredients.startendToken
  let tokenOut := ingredients.intermediaryToken
  let tokenOutBalance ← setup.getBalanceOfEvm tokenOut setup.sandwichContract
  let pool := { ingredients.targetPool with
    hasDust := ingredients.targetPool.hasDust || decide (0 < tokenOutBalance) }
  let ingredients := { ingredients with targetPool := pool }
  let amountOut ← setup.getAmountOut pool frontrunIn tokenIn tokenOut
  let frontrunOut ← ofOption .panic (decodeIntermediary ingredients amountOut)
  let frontrunOut := BitVec.ofNat 256 frontrunOut
  build (.frontrun index (index = 0) frontrunIn frontrunOut)
  let segment ← setup.frontrunPayload isMultiple (index = 0) frontrunIn frontrunOut ingredients
  let bundle ← frontruns.bundle.extend segment
  pure ⟨bundle, frontruns.backrunIns ++ [frontrunOut], frontruns.ingredients ++ [ingredients]⟩

/-- Prepare the frontruns, from an index on. An amount that rounds to zero is skipped. -/
def frontrunLoop (isMultiple : Bool) (frontrunIns : List Word) :
    ℕ → List RawIngredients → Frontruns → Simulation Frontruns
  | _, [], frontruns => pure frontruns
  | index, ingredients :: rest, frontruns => do
    let amount ← ofOption .outOfRange frontrunIns[index]?
    let frontrunIn := BitVec.ofNat 256 (encodeWeth amount.toNat)
    if frontrunIn = 0 then
      frontrunLoop isMultiple frontrunIns (index + 1) rest
        { frontruns with ingredients := frontruns.ingredients ++ [ingredients] }
    else
      let frontruns ← setup.frontrunSegment isMultiple index frontrunIn ingredients frontruns
      frontrunLoop isMultiple frontrunIns (index + 1) rest frontruns

/-- Run the meats and keep those that succeed. -/
def commitMeats : List Meat → List Meat → Simulation (List Meat)
  | [], goodMeats => pure goodMeats
  | meat :: meats, goodMeats => do
    loadMeat unwrap meat
    match setup.backend.answer (← runTx .transactCommit (.meat meat)) with
    | .evmError => throw (.error .evmError)
    | .success _ _ => commitMeats meats (goodMeats ++ [meat])
    | .revert _ _ => commitMeats meats goodMeats
    | .halt _ => commitMeats meats goodMeats

/-- Prepare one backrun segment. -/
def backrunSegment (isMultiple : Bool) (backrunIns : List Word) (index : ℕ)
    (ingredients : RawIngredients) (bundle : Bundle) : Simulation Bundle := do
  let tokenIn := ingredients.intermediaryToken
  let tokenOut := ingredients.startendToken
  let backrunIn ← ofOption .outOfRange backrunIns[index]?
  let backrunIn ← ofOption .panic (encodeIntermediaryToken ingredients backrunIn)
  let backrunIn := BitVec.ofNat 256 backrunIn
  let amountOut ← setup.getAmountOut ingredients.targetPool backrunIn tokenIn tokenOut
  let backrunOut := BitVec.ofNat 256 (encodeWeth amountOut.toNat)
  build (.backrun index (index = 0) backrunIn backrunOut)
  let segment ← setup.backrunPayload isMultiple (index = 0) backrunIn backrunOut ingredients
  bundle.extend segment

/-- Prepare the backruns, from an index on. -/
def backrunLoop (isMultiple : Bool) (backrunIns : List Word) :
    ℕ → List RawIngredients → Bundle → Simulation Bundle
  | _, [], bundle => pure bundle
  | index, ingredients :: rest, bundle => do
    let bundle ← setup.backrunSegment isMultiple backrunIns index ingredients bundle
    backrunLoop isMultiple backrunIns (index + 1) rest bundle

/-- Run a payload again, with its access list. The gas used and the access list are reported. -/
def sendWithAccessList (role : Role) (failed halted notSafu : SimulationError)
    (reverted : List Byte → SimulationError) (accessList : AccessList) :
    Simulation (ℕ × AccessList) := do
  setTx fun tx => { tx with accessList }
  -- run again but now with access list (so that we get accurate gas used)
  let ran ← runTx .inspectCommit role
  match setup.backend.answer ran with
  | .evmError => throw (.error failed)
  | .revert output _ => throw (.error (reverted output))
  | .halt _ => throw (.error halted)
  | .success _ gasUsed =>
    if setup.backend.isSandoSafu ran then pure (gasUsed, accessList)
    else throw (.error notSafu)

/-- Send a payload to the sandwich contract, once for its access list and once more with it. -/
def sendPayload (role : Role) (failed halted notSafu : SimulationError)
    (reverted : List Byte → SimulationError) (clearAccessList : Bool) (bundle : Bundle)
    (count : ℕ) : Simulation (ℕ × AccessList) := do
  setTx fun tx => { tx with
    caller := setup.searcher, transactTo := setup.sandwichContract, data := bundle.data
    value := bundle.value, gasLimit := 700000 * count, gasPrice := setup.baseFee
    accessList := if clearAccessList then [] else tx.accessList }
  -- get access list
  let ran ← runTx .inspectRef role
  match setup.backend.answer ran with
  | .evmError => throw .panic
  | _ => setup.sendWithAccessList role failed halted notSafu reverted (setup.backend.accessList ran)

/-- Perform simulation using sandwich contract and check for salmonella. -/
def sanityCheck (sandwichStartBalance : Word) (frontrunIns : List Word)
    (multiIngredients : List RawIngredients) : Simulation OptimalRecipe := do
  let isMultiple := decide (1 < multiIngredients.length)
  let frontruns ← setup.frontrunLoop isMultiple frontrunIns 0 multiIngredients
    ⟨⟨[], 0⟩, [], []⟩
  let frontrun := frontruns.bundle.finish isMultiple
  let (frontrunGasUsed, frontrunAccessList) ← setup.sendPayload .frontrun .frontrunEvmError
    .frontrunHalted .frontrunNotSafu .frontrunReverted true frontrun multiIngredients.length
  let goodMeats ← setup.commitMeats (frontruns.ingredients.flatMap (·.meats)) []
  let goodMeats := sortMeats goodMeats
  if goodMeats = [] then throw (.error .noMeat)
  let backrun ← setup.backrunLoop isMultiple frontruns.backrunIns 0 frontruns.ingredients ⟨[], 0⟩
  let backrun := backrun.finish isMultiple
  let (backrunGasUsed, backrunAccessList) ← setup.sendPayload .backrun .backrunEvmError
    .backrunHalted .backrunNotSafu .backrunReverted false backrun multiIngredients.length
  let postSandwichBalance ← setup.getBalanceOfEvm getWethAddress setup.sandwichContract
  pure {
    frontrun, frontrunGasUsed, frontrunAccessList, backrun, backrunGasUsed, backrunAccessList
    meats := goodMeats
    revenue := (checkedSub postSandwichBalance sandwichStartBalance).getD 0
    targetPools := frontruns.ingredients.map (·.targetPool) }

end Setup

end Sando.Simulate
