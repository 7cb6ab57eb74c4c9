/-
Scanning for pools.

`getAllPools` reads the logs of a factory in windows that include both of their ends, so that two windows
meet in a block: a pool that was created there is found twice, and every other pool once
(`scansOnce_iff`). The last window reaches beyond the current block.
-/

import Sando.Cfmm.Dex
import Sando.Search.Windows

namespace Sando.Cfmm

open Sando.Evm Sando.Search Sando.Simulate

variable {dex : Dex} {chain : List Log} {startBlock : Option ℕ} {currentBlock : ℕ}

/-- The pools of a dex that were created between two blocks, both of them included. -/
def createdBetween (chain : List Log) (dex : Dex) (first last : ℕ) : List TargetPool :=
  (chain.filter fun log => log.address = dex.factoryAddress ∧ first ≤ log.block ∧ log.block ≤ last)
    |>.filterMap dex.newPoolFromEvent

/-- The logs of the factory of a dex. -/
def Dex.logs (dex : Dex) (chain : List Log) : List Log :=
  chain.filter fun log => log.topics.head? = some (poolCreatedEventSignature dex.poolVariant)
    ∧ log.address = dex.factoryAddress

/-- The last block of the last window. -/
def lastScanned (startBlock currentBlock : ℕ) : ℕ :=
  startBlock + step * ((currentBlock - startBlock) / step + 1)

theorem lt_lastScanned (startBlock currentBlock : ℕ) :
    currentBlock < lastScanned startBlock currentBlock := by
  have split := Nat.lt_mul_div_succ (currentBlock - startBlock) (show 0 < step by decide)
  unfold lastScanned
  omega

theorem getLogs_eq (first last : ℕ) :
    getLogs chain (poolCreatedEventSignature dex.poolVariant) dex.factoryAddress first last
      = between Log.block first last (dex.logs chain) := by
  unfold getLogs between Dex.logs
  rw [List.filter_filter]
  congr 1
  funext log
  rw [← Bool.decide_and]
  exact decide_eq_decide.mpr (by tauto)

/-- A pool is read only out of a log with the event. -/
theorem filterMap_between (first last : ℕ) :
    (between Log.block first last (dex.logs chain)).filterMap dex.newPoolFromEvent
      = createdBetween chain dex first last := by
  unfold between Dex.logs createdBetween
  rw [List.filter_filter, List.filterMap_filter, List.filterMap_filter]
  apply List.filterMap_congr
  intro log _
  by_cases event : log.topics.head? = some (poolCreatedEventSignature dex.poolVariant)
  · simp [event, and_comm, and_assoc]
  · have none : dex.newPoolFromEvent log = none := by
      rw [Option.eq_none_iff_forall_not_mem]
      intro pool found
      exact event (Dex.newPoolFromEvent_spec found).1
    simp [none]

theorem getAllPools_eq (le : startBlock.getD dex.creationBlock ≤ currentBlock) :
    getAllPools chain currentBlock startBlock dex
      = (windows Log.block (startBlock.getD dex.creationBlock) step
          ((currentBlock - startBlock.getD dex.creationBlock) / step + 1)
          (dex.logs chain)).filterMap dex.newPoolFromEvent := by
  unfold getAllPools ranges windows
  simp only [if_pos le, List.flatMap_map, List.filterMap_flatMap, getLogs_eq]

variable (dex chain startBlock currentBlock) in
/-- Every pool that was created up to the current block is found once, and so is every pool that the
last window finds behind it. -/
def ScansOnce : Prop :=
  (getAllPools chain currentBlock startBlock dex).Perm
    (createdBetween chain dex (startBlock.getD dex.creationBlock) currentBlock
      ++ createdBetween chain dex (currentBlock + 1)
        (lastScanned (startBlock.getD dex.creationBlock) currentBlock))

variable (dex chain startBlock currentBlock) in
/-- No pool was created in a block in which two windows meet. -/
def OffSeams : Prop :=
  ∀ log ∈ chain, log.address = dex.factoryAddress → (dex.newPoolFromEvent log).isSome →
    startBlock.getD dex.creationBlock < log.block → log.block ≤ currentBlock →
    ¬ step ∣ log.block - startBlock.getD dex.creationBlock

/-- The blocks in which two windows meet. -/
theorem exists_seam_iff {start block : ℕ} :
    (∃ index < (currentBlock - start) / step, block = start + step * (index + 1))
      ↔ start < block ∧ block ≤ currentBlock ∧ step ∣ block - start := by
  have positive : 0 < step := by decide
  constructor
  · rintro ⟨index, bound, rfl⟩
    have within : step * (index + 1) ≤ currentBlock - start := by
      rw [Nat.mul_comm]
      exact (Nat.le_div_iff_mul_le positive).mp bound
    have beyond : 0 < step * (index + 1) := Nat.mul_pos positive (Nat.succ_pos index)
    refine ⟨by omega, by omega, index + 1, ?_⟩
    omega
  · rintro ⟨lower, upper, count, distance⟩
    cases count with
    | zero => omega
    | succ index =>
        refine ⟨index, (Nat.le_div_iff_mul_le positive).mpr ?_, by omega⟩
        rw [Nat.mul_comm, ← distance]
        omega

theorem offSeams_iff :
    OffSeams dex chain startBlock currentBlock
      ↔ ∀ log ∈ dex.logs chain, (dex.newPoolFromEvent log).isSome →
        ∀ index < (currentBlock - startBlock.getD dex.creationBlock) / step,
          log.block ≠ startBlock.getD dex.creationBlock + step * (index + 1) := by
  constructor
  · intro off log member some index bound same
    obtain ⟨logged, written⟩ := List.mem_filter.mp member
    obtain ⟨lower, upper, seam⟩ := exists_seam_iff.mp ⟨index, bound, same⟩
    exact off log logged (of_decide_eq_true written).2 some lower upper seam
  · intro apart log logged address some lower upper seam
    obtain ⟨index, bound, same⟩ := exists_seam_iff.mpr ⟨lower, upper, seam⟩
    obtain ⟨pool, found⟩ := Option.isSome_iff_exists.mp some
    have event := (Dex.newPoolFromEvent_spec found).1
    exact apart log (List.mem_filter.mpr ⟨logged, decide_eq_true ⟨event, address⟩⟩) some index bound
      same

/-- Every pool is found once exactly if none was created in a block in which two windows meet. -/
theorem scansOnce_iff (le : startBlock.getD dex.creationBlock ≤ currentBlock) :
    ScansOnce dex chain startBlock currentBlock ↔ OffSeams dex chain startBlock currentBlock := by
  have beyond := lt_lastScanned (startBlock.getD dex.creationBlock) currentBlock
  have whole : (createdBetween chain dex (startBlock.getD dex.creationBlock) currentBlock
      ++ createdBetween chain dex (currentBlock + 1)
        (lastScanned (startBlock.getD dex.creationBlock) currentBlock)).Perm
      ((between Log.block (startBlock.getD dex.creationBlock)
        (lastScanned (startBlock.getD dex.creationBlock) currentBlock) (dex.logs chain)).filterMap
          dex.newPoolFromEvent) := by
    rw [← filterMap_between, ← filterMap_between, ← List.filterMap_append]
    exact (between_append_perm (by omega) beyond.le).filterMap _
  rw [offSeams_iff, ← windows_exact_iff, ← getAllPools_eq le]
  exact ⟨fun once => once.trans whole, fun once => once.trans whole.symm⟩

/-- The first of the dexes. -/
def uniswapV2 : Dex := ⟨0x5C69bEe701ef814a2B6a3EDD4B1652CB9cc5aA6f, .uniswapV2, 10000835⟩

/-- The log of the pair of USDC and WETH. -/
def pairLog (block : ℕ) : Log := usdcPairLog uniswapV2.factoryAddress block

theorem scansOnce_pair : ScansOnce uniswapV2 [pairLog 10008355] none 17000000 :=
  (scansOnce_iff (by decide)).mpr (by unfold OffSeams; decide)

/-- A pair of the block in which the first two windows meet is found twice. -/
theorem not_scansOnce_seam : ¬ ScansOnce uniswapV2 [pairLog 10100835] none 10100835 := by
  intro once
  have lengths := once.length_eq
  exact absurd lengths (by decide)

end Sando.Cfmm
