/-
The forked EVM of the simulations, and the queries on it.

The simulators share one EVM and write its transaction environment field by field, `evm.env.tx`. A
field that nobody writes keeps its value, so the state holds the environment, and every transaction
that runs is recorded with the environment it ran with (`State.ran`). What the EVM answers is a
parameter, `Backend`, which may depend on everything that ran before. A record also carries the `Role`
of the transaction, which no code reads. `State.built` records the segments that payload builders were
asked for.
-/

import Sando.Evm.Abi
import Sando.Evm.Checked
import Sando.Program.Rules
import Sando.TxBuilder.SwapValue

namespace Sando.Simulate

open Sando.Evm Sando.Program Sando.TxBuilder

/-! ### Data -/

/-- A 64-bit integer. -/
abbrev U64 := BitVec 64

inductive PoolVariant
  | uniswapV2 | uniswapV3
  deriving DecidableEq

/-- A pool, with the exchange it belongs to. -/
structure TargetPool extends Pool where
  poolVariant : PoolVariant
  hasDust : Bool

/-- The V2 pair of USDC and WETH. -/
def usdcPair : TargetPool where
  address := 0xB4e16d0168e52d35CaCD2c6185b44281Ec28C9Dc
  token0 := 0xA0b86991c6218b36c1d19D4a2e9Eb0cE3606eB48
  token1 := getWethAddress
  swapFee := 3000
  poolVariant := .uniswapV2
  hasDust := false

/-- The next block. -/
structure BlockInfo where
  number : U64
  baseFee : Word

/-- A victim transaction. -/
structure Meat where
  hash : Word
  fromAddress : Address
  toAddress : Option Address
  input : List Byte
  value : Word
  gas : Word
  chainId : Option Word
  transactionType : Option U64
  gasPrice : Option Word
  maxFeePerGas : Option Word
  maxPriorityFeePerGas : Option Word
  deriving DecidableEq

/-- What is known about an opportunity. -/
structure RawIngredients where
  startendToken : Address
  intermediaryToken : Address
  meats : List Meat
  targetPool : TargetPool

abbrev AccessList := List (Address × List Word)

/-- The transaction environment. -/
structure TxEnv where
  caller : Address
  gasLimit : ℕ
  gasPrice : Word
  transactTo : Address
  value : Word
  data : List Byte
  gasPriorityFee : Option Word
  chainId : Option U64
  accessList : AccessList
  deriving DecidableEq

/-- The environment of a new EVM. -/
def TxEnv.default : TxEnv where
  caller := 0
  gasLimit := 2 ^ 64 - 1
  gasPrice := 0
  transactTo := 0
  value := 0
  data := []
  gasPriorityFee := none
  chainId := none
  accessList := []

/-! ### Runs -/

/-- What a transaction is for. -/
inductive Role
  | quote | balance | frontrun | meat (meat : Meat) | backrun
  deriving DecidableEq

/-- How a transaction is run: with or without an inspector, keeping its changes or not. -/
inductive How
  | transactRef | transactCommit | inspectRef | inspectCommit
  deriving DecidableEq

/-- A transaction that ran. -/
structure Ran where
  how : How
  role : Role
  tx : TxEnv
  deriving DecidableEq

/-- The answer of the EVM. -/
inductive Answer
  | evmError
  | success (output : List Byte) (gasUsed : ℕ)
  | revert (output : List Byte) (gasUsed : ℕ)
  | halt (gasUsed : ℕ)

/-- What the EVM answers to the last of the transactions that ran, and what the inspectors saw. -/
structure Backend where
  answer : List Ran → Answer
  accessList : List Ran → AccessList
  isSandoSafu : List Ran → Bool

/-- A segment that a payload builder was asked for, with its place in the list of ingredients. -/
inductive Built
  | frontrun (index : ℕ) (isFirst : Bool) (frontrunIn frontrunOut : Word)
  | backrun (index : ℕ) (isFirst : Bool) (backrunIn backrunOut : Word)
  deriving DecidableEq

structure State where
  tx : TxEnv
  ran : List Ran
  built : List Built

/-- A new EVM. -/
def State.initial : State := ⟨.default, [], []⟩

inductive SimulationError
  | frontrunEvmError | frontrunHalted | frontrunReverted (output : List Byte) | frontrunNotSafu
  | backrunEvmError | backrunHalted | backrunReverted (output : List Byte) | backrunNotSafu
  | failedToDecodeOutput | evmError | evmHalted | evmReverted (output : List Byte) | abiError
  | zeroOptimal | noMeat
  deriving DecidableEq

/-- How a simulation stops: with an error, with an index out of range or with another panic. -/
inductive Failure
  | error (error : SimulationError)
  | outOfRange
  | panic
  deriving DecidableEq

abbrev Simulation := EStateM Failure State

/-- What a simulation depends on. -/
structure Setup where
  backend : Backend
  nextBlock : BlockInfo
  keccak : List Byte → Word
  searcher : Address
  sandwichContract : Address

/-- Write some fields of the environment. -/
def setTx (change : TxEnv → TxEnv) : Simulation Unit :=
  modify fun state => { state with tx := change state.tx }

/-- Record a segment. -/
def build (segment : Built) : Simulation Unit :=
  modify fun state => { state with built := state.built ++ [segment] }

/-- Run a transaction with the environment as it is. -/
def runTx (how : How) (role : Role) : Simulation (List Ran) := fun state =>
  let ran := state.ran ++ [⟨how, role, state.tx⟩]
  .ok ran { state with ran }

/-! ### Checked arithmetic -/

/-- A 256-bit result. -/
def u256 (value : ℕ) : Simulation Word := ofOption .panic (checkedWord value)

/-- A word as a 64-bit integer. -/
def toU64 (value : Word) : Simulation U64 := ofOption .panic (asU64 value)

/-- A word as a 128-bit integer, and back as a signed word. -/
def asU128 (value : Word) : Simulation Word :=
  if value.toNat < 2 ^ 128 then pure value else throw .panic

/-- A difference, if there is one. -/
def checkedSub (first second : Word) : Option Word :=
  if second ≤ first then some (first - second) else none

theorem checkedSub_of_le {first second : Word} (le : second.toNat ≤ first.toNat) :
    checkedSub first second = some (BitVec.ofNat 256 (first.toNat - second.toNat)) := by
  have difference : first - second = BitVec.ofNat 256 (first.toNat - second.toNat) := by
    apply BitVec.eq_of_toNat_eq
    rw [BitVec.toNat_sub_of_le (BitVec.le_def.mpr le), toNat_ofNat_of_lt (by omega)]
  rw [checkedSub, if_pos (BitVec.le_def.mpr le), difference]

theorem checkedSub_of_lt {first second : Word} (lt : first.toNat < second.toNat) :
    checkedSub first second = none := by
  have not_le : ¬ second ≤ first := fun le => absurd (BitVec.le_def.mp le) (by omega)
  exact if_neg not_le

theorem u256_of_lt {value : ℕ} (bounded : value < 2 ^ 256) :
    u256 value = pure (BitVec.ofNat 256 value) := by
  rw [u256, checkedWord_of_lt bounded]
  rfl

/-! ### Queries -/

def getEthDev : Address := 0x5AbFEc25f74Cd88437631a7731906932776356f9

def getUniswapV3QuoterAddress : Address := 0xb27308f9F90D607463bb33eA1BeBb41C27CE5AB6

def getSqrtPriceLimitX96 (isZeroForOne : Bool) : Word :=
  if isZeroForOne then 0x1000276AD else 0xFFFD8963EFD1FC6A506488495D951D5263988D25

namespace Setup

variable (setup : Setup)

/-- The base fee of the next block. -/
def baseFee : Word := setup.nextBlock.baseFee

/-- Run a query and keep its output. -/
def query (role : Role) : Simulation (List Byte) := do
  match setup.backend.answer (← runTx .transactRef role) with
  | .evmError => throw (.error .evmError)
  | .success output _ => pure output
  | .revert output _ => throw (.error (.evmReverted output))
  | .halt _ => throw (.error .evmHalted)

/-- A query that the EVM answers. -/
theorem query_eq (state : State) {role : Role} {output : List Byte} {gasUsed : ℕ}
    (answered : setup.backend.answer (state.ran ++ [⟨.transactRef, role, state.tx⟩])
      = .success output gasUsed) :
    setup.query role state
      = .ok output { state with ran := state.ran ++ [⟨.transactRef, role, state.tx⟩] } := by
  unfold query
  rw [bind_apply]
  simp only [runTx, answered]
  rfl

/-- Find amount out from an amount in using the k=xy formula. -/
def getAmountOutEvmV2 (amountIn : Word) (targetPool tokenIn tokenOut : Address) :
    Simulation Word := do
  -- get reserves
  setTx fun tx => { tx with
    transactTo := targetPool, caller := getEthDev, value := 0, data := encodeCall 0x0902f1ac [] }
  let output ← setup.query .quote
  if output.length < 96 then throw .panic
  let reserves0 := window (byteAt output) 0 32
  let reserves1 := window (byteAt output) 32 32
  let (reserveIn, reserveOut) :=
    if tokenIn < tokenOut then (reserves0, reserves1) else (reserves1, reserves0)
  let aInWithFee ← u256 (amountIn.toNat * 997)
  let numerator ← u256 (aInWithFee.toNat * reserveOut)
  let scaled ← u256 (reserveIn * 1000)
  let denominator ← u256 (scaled.toNat + aInWithFee.toNat)
  -- a checked division that gives zero for a zero denominator
  pure (BitVec.ofNat 256 (numerator.toNat / denominator.toNat))

def getAmountOutEvmV3 (amountIn : Word) (tokenIn tokenOut : Address) (swapFee : Word) :
    Simulation Word := do
  let sqrtPriceLimitX96 := getSqrtPriceLimitX96 (tokenIn < tokenOut)
  setTx fun tx => { tx with
    transactTo := getUniswapV3QuoterAddress, caller := getEthDev, value := 0
    data := encodeCall 0xf7729d43
      [tokenIn.toNat, tokenOut.toNat, swapFee.toNat, amountIn.toNat, sqrtPriceLimitX96.toNat] }
  let output ← setup.query .quote
  if output.length < 32 then throw (.error .abiError)
  pure (wordAt (byteAt output) 0)

/-- Get token balance. -/
def getBalanceOfEvm (token owner : Address) : Simulation Word := do
  setTx fun tx => { tx with
    transactTo := token, data := encodeCall 0x70a08231 [owner.toNat], caller := getEthDev
    gasPrice := setup.baseFee, gasLimit := 700000, value := 0 }
  let output ← setup.query .balance
  if output.length < 32 then throw (.error .abiError)
  pure (wordAt (byteAt output) 0)

end Setup

end Sando.Simulate
