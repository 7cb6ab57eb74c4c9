/-
Finding pools.

A factory logs every pool it creates. `Dex.newPoolFromEvent` reads a pool out of a log and ignores
pools without WETH; `getAllPools` queries the logs of one factory in ranges of `step` blocks and
`syncDex` those of several factories. The ranges overlap in one block and leave none out
(`exists_range`), so that `mem_syncDex` finds every pool logged between the two blocks.
-/

import Sando.Simulate.Evm

namespace Sando.Cfmm

open Sando.Evm Sando.TxBuilder Sando.Simulate

/-! ### Logs -/

/-- A log, with the block it was written in. -/
structure Log where
  block : ℕ
  address : Address
  topics : List Word
  data : List Byte

/-- The signature of the event that creates a pool. -/
def poolCreatedEventSignature : PoolVariant → Word
  | .uniswapV2 => 0x0d3648bd0f6ba80134a33ba9275ac585d9d315f0ad8355cddefde31afa28d0e9
  | .uniswapV3 => 0x783cca1c0412dd0d695e784568c96da2e9c22ff989357a2e8b1d9b2b4e6b7118

/-- `PairCreated(address indexed, address indexed, address, uint)`. -/
def decodePairCreated (log : Log) : Option (Address × Address × Address) :=
  match log.topics with
  | [signature, token0, token1] =>
    if signature = poolCreatedEventSignature .uniswapV2 ∧ 64 ≤ log.data.length then
      some (token0.setWidth 160, token1.setWidth 160, addressAt (byteAt log.data) 12)
    else none
  | _ => none

/-- `PoolCreated(address indexed, address indexed, uint24 indexed, int24, address)`, with the fee as a
32-bit integer. -/
def decodePoolCreated (log : Log) : Option (Address × Address × BitVec 32 × Address) :=
  match log.topics with
  | [signature, token0, token1, fee] =>
    if signature = poolCreatedEventSignature .uniswapV3 ∧ 64 ≤ log.data.length then
      some (token0.setWidth 160, token1.setWidth 160, fee.setWidth 32,
        addressAt (byteAt log.data) 44)
    else none
  | _ => none

/-- The logs with an event of a contract, in a range of blocks that includes both ends. -/
def getLogs (chain : List Log) (topic0 : Word) (address : Address) (fromBlock toBlock : ℕ) :
    List Log :=
  chain.filter fun log => log.topics.head? = some topic0 ∧ log.address = address
    ∧ fromBlock ≤ log.block ∧ log.block ≤ toBlock

/-! ### Pools -/

/-- Creates a new pool instance. -/
def newPool (address tokenA tokenB : Address) (swapFee : Word) (poolVariant : PoolVariant) :
    TargetPool :=
  let tokens := if tokenA < tokenB then (tokenA, tokenB) else (tokenB, tokenA)
  { address, token0 := tokens.1, token1 := tokens.2, swapFee, poolVariant, hasDust := false }

structure Dex where
  factoryAddress : Address
  poolVariant : PoolVariant
  creationBlock : ℕ
  deriving DecidableEq

/-- Parse a log and extract its pool. -/
def Dex.newPoolFromEvent (dex : Dex) (log : Log) : Option TargetPool :=
  match dex.poolVariant with
  | .uniswapV2 => do
    let (token0, token1, address) ← decodePairCreated log
    -- ignore pool does not have weth as one of its tokens
    if getWethAddress ∈ [token0, token1] then
      some (newPool address token0 token1 3000 .uniswapV2)
    else none
  | .uniswapV3 => do
    let (token0, token1, fee, address) ← decodePoolCreated log
    -- ignore pair does not have weth as one of its tokens
    if getWethAddress ∈ [token0, token1] then
      some (newPool address token0 token1 (fee.setWidth 256) .uniswapV3)
    else none

/-- All dexes the bot is started with. -/
def dexes : List Dex := [
  ⟨0x5C69bEe701ef814a2B6a3EDD4B1652CB9cc5aA6f, .uniswapV2, 10000835⟩,
  ⟨0xC0AEe478e3658e2610c5F7A4A2E1777cE9e4f2Ac, .uniswapV2, 10794229⟩,
  ⟨0x9DEB29c9a4c7A88a3C0257393b7f3335338D9A9D, .uniswapV2, 10828414⟩,
  ⟨0x4eef5746ED22A2fD368629C1852365bf5dcb79f1, .uniswapV2, 12385067⟩,
  ⟨0x1097053Fd2ea711dad45caCcc45EfF7548fCB362, .uniswapV2, 15614590⟩,
  ⟨0x115934131916C8b277DD010Ee02de363c09d037c, .uniswapV2, 12771526⟩,
  ⟨0x35113a300ca0D7621374890ABFEAC30E88f214b1, .uniswapV2, 15210780⟩,
  ⟨0x1F98431c8aD98523631AE4a59f267346ea31F984, .uniswapV3, 12369621⟩,
  ⟨0x41ff9AA7e16B8B1a8a8dc4f0eFacd93D02d071c9, .uniswapV3, 16950672⟩,
  ⟨0xbaceb8ec6b9355dfc0269c18bac9d6e2bdc29c4f, .uniswapV3, 16955547⟩]

/-! ### Queries -/

/-- The length of a range of blocks. -/
def step : ℕ := 100000

/-- The starts of the ranges between two blocks. -/
def ranges (creationBlock currentBlock : ℕ) : List ℕ :=
  if creationBlock ≤ currentBlock then
    (List.range ((currentBlock - creationBlock) / step + 1)).map fun index =>
      creationBlock + step * index
  else []

/-- All pools of a dex that were created between two blocks. -/
def getAllPools (chain : List Log) (currentBlock : ℕ) (startBlock : Option ℕ) (dex : Dex) :
    List TargetPool :=
  let creationBlock := startBlock.getD dex.creationBlock
  (ranges creationBlock currentBlock).flatMap fun fromBlock =>
    let toBlock := fromBlock + step
    (getLogs chain (poolCreatedEventSignature dex.poolVariant) dex.factoryAddress fromBlock
      toBlock).filterMap dex.newPoolFromEvent

/-- All pools of some dexes that were created between two blocks. -/
def syncDex (chain : List Log) (dexes : List Dex) (currentBlock : ℕ) (startBlock : Option ℕ) :
    List TargetPool :=
  dexes.flatMap (getAllPools chain currentBlock startBlock)

section Pools

variable {dex : Dex} {log : Log} {pool : TargetPool} {chain : List Log}

/-- The tokens of a new pool are in order, and they are the two it was made of. -/
theorem newPool_tokens (address tokenA tokenB : Address) (swapFee : Word)
    (poolVariant : PoolVariant) {pool : TargetPool}
    (built : pool = newPool address tokenA tokenB swapFee poolVariant) :
    pool.token0 ≤ pool.token1
      ∧ ∀ token ∈ [tokenA, tokenB], token = pool.token0 ∨ token = pool.token1 := by
  subst built
  unfold newPool
  by_cases ordered : tokenA < tokenB
  · simp only [if_pos ordered]
    exact ⟨BitVec.le_of_lt ordered, by simp⟩
  · simp only [if_neg ordered]
    exact ⟨BitVec.not_lt.mp ordered, by simp [or_comm]⟩

theorem decodePairCreated_topic {created : Address × Address × Address}
    (decoded : decodePairCreated log = some created) :
    log.topics.head? = some (poolCreatedEventSignature .uniswapV2) := by
  unfold decodePairCreated at decoded
  split at decoded
  · rename_i signature token0 token1 topics
    by_cases event : signature = poolCreatedEventSignature .uniswapV2 ∧ 64 ≤ log.data.length
    · rw [topics, event.1, List.head?_cons]
    · exact absurd ((if_neg event).symm.trans decoded) (by simp)
  · exact absurd decoded (by simp)

theorem decodePoolCreated_topic {created : Address × Address × BitVec 32 × Address}
    (decoded : decodePoolCreated log = some created) :
    log.topics.head? = some (poolCreatedEventSignature .uniswapV3) := by
  unfold decodePoolCreated at decoded
  split at decoded
  · rename_i signature token0 token1 fee topics
    by_cases event : signature = poolCreatedEventSignature .uniswapV3 ∧ 64 ≤ log.data.length
    · rw [topics, event.1, List.head?_cons]
    · exact absurd ((if_neg event).symm.trans decoded) (by simp)
  · exact absurd decoded (by simp)

/-- What the indexer knows of a pool: its exchange, the order of its tokens, and that one is WETH. -/
structure Indexed (dex : Dex) (pool : TargetPool) : Prop where
  poolVariant : pool.poolVariant = dex.poolVariant
  ordered : pool.token0 ≤ pool.token1
  weth : getWethAddress = pool.token0 ∨ getWethAddress = pool.token1

/-- A pool is made of a log with the event of the dex, and WETH is one of its tokens. -/
theorem Dex.newPoolFromEvent_spec (found : dex.newPoolFromEvent log = some pool) :
    log.topics.head? = some (poolCreatedEventSignature dex.poolVariant) ∧ Indexed dex pool := by
  unfold newPoolFromEvent at found
  cases variant : dex.poolVariant with
  | uniswapV2 =>
    rw [variant] at found
    obtain ⟨⟨token0, token1, address⟩, decoded, built⟩ := Option.bind_eq_some_iff.mp found
    by_cases weth : getWethAddress ∈ [token0, token1]
    · have made := Option.some.inj ((if_pos weth).symm.trans built)
      obtain ⟨ordered, tokens⟩ := newPool_tokens _ _ _ _ _ made.symm
      exact ⟨decodePairCreated_topic decoded, made ▸ variant.symm, ordered, tokens _ weth⟩
    · exact absurd ((if_neg weth).symm.trans built) (by simp)
  | uniswapV3 =>
    rw [variant] at found
    obtain ⟨⟨token0, token1, fee, address⟩, decoded, built⟩ := Option.bind_eq_some_iff.mp found
    by_cases weth : getWethAddress ∈ [token0, token1]
    · have made := Option.some.inj ((if_pos weth).symm.trans built)
      obtain ⟨ordered, tokens⟩ := newPool_tokens _ _ _ _ _ made.symm
      exact ⟨decodePoolCreated_topic decoded, made ▸ variant.symm, ordered, tokens _ weth⟩
    · exact absurd ((if_neg weth).symm.trans built) (by simp)

/-- The log with which a factory announces the pair of USDC and WETH. -/
def usdcPairLog (factoryAddress : Address) (block : ℕ) : Log where
  block
  address := factoryAddress
  topics := [poolCreatedEventSignature .uniswapV2, usdcPair.token0.setWidth 256,
    usdcPair.token1.setWidth 256]
  data := bigEndian 32 usdcPair.address.toNat ++ bigEndian 32 1

/-! ### Ranges -/

/-- Every block between the two lies in a range. -/
theorem exists_range {creationBlock currentBlock block : ℕ} (lower : creationBlock ≤ block)
    (upper : block ≤ currentBlock) : ∃ fromBlock ∈ ranges creationBlock currentBlock,
      fromBlock ≤ block ∧ block ≤ fromBlock + step := by
  have split := Nat.div_add_mod (block - creationBlock) step
  have inside := Nat.mod_lt (block - creationBlock) (show 0 < step by decide)
  have index : (block - creationBlock) / step < (currentBlock - creationBlock) / step + 1 :=
    Nat.lt_succ_of_le (Nat.div_le_div_right (by omega))
  refine ⟨creationBlock + step * ((block - creationBlock) / step), ?_, by omega, by omega⟩
  rw [ranges, if_pos (le_trans lower upper)]
  exact List.mem_map_of_mem (List.mem_range.mpr index)

/-- Every pool that is logged between the two blocks is found. -/
theorem mem_getAllPools {currentBlock : ℕ} {startBlock : Option ℕ} (logged : log ∈ chain)
    (written : log.address = dex.factoryAddress) (found : dex.newPoolFromEvent log = some pool)
    (lower : startBlock.getD dex.creationBlock ≤ log.block) (upper : log.block ≤ currentBlock) :
    pool ∈ getAllPools chain currentBlock startBlock dex := by
  obtain ⟨fromBlock, range, first, last⟩ := exists_range lower upper
  refine List.mem_flatMap.mpr ⟨fromBlock, range, List.mem_filterMap.mpr ⟨log, ?_, found⟩⟩
  exact List.mem_filter.mpr ⟨logged,
    decide_eq_true ⟨(Dex.newPoolFromEvent_spec found).1, written, first, last⟩⟩

theorem mem_syncDex {dexes : List Dex} {currentBlock : ℕ} {startBlock : Option ℕ}
    (listed : dex ∈ dexes) (logged : log ∈ chain) (written : log.address = dex.factoryAddress)
    (found : dex.newPoolFromEvent log = some pool)
    (lower : startBlock.getD dex.creationBlock ≤ log.block) (upper : log.block ≤ currentBlock) :
    pool ∈ syncDex chain dexes currentBlock startBlock :=
  List.mem_flatMap.mpr ⟨dex, listed, mem_getAllPools logged written found lower upper⟩

end Pools

end Sando.Cfmm
