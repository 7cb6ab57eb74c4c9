/-
The bribe.

What a bundle costs is the gas of the frontrun at the base fee of the target block, and the gas of the
backrun at the fee that `calculateBribeForMaxFee` finds. The fee is a share of what the revenue leaves
behind the frontrun, at most all of it, by two divisions that round down; so the cost never exceeds the
revenue by more than what is added for the pools without dust, for every draw (`bribe_neverOverspends`).
A bundle that is sent is signed with these two fees
(`sendBundle_cost`).
-/

import Sando.Runner.BundleSender

namespace Sando.Runner

open Sando.Evm Sando.TxBuilder Sando.Simulate

theorem ok_bind {ε α β : Type} (value : α) (rest : α → Except ε β) :
    (Except.ok value >>= rest) = rest value := rfl

/-! ### The fee -/

section Fee

variable (recipe : OptimalRecipe) (targetBlock : TargetBlock) (random : ℕ)

/-- The number of pools without dust. -/
def withoutDust (pools : List TargetPool) : ℕ := pools.countP (!·.hasDust)

/-- What the frontrun costs. -/
def frontrunFee : ℕ := recipe.frontrunGasUsed * targetBlock.baseFee.toNat

/-- What is shared with the miner: the revenue behind the frontrun and the extra for the dust. -/
def shared : ℕ :=
  recipe.revenue.toNat - frontrunFee recipe targetBlock
    + 11000 * targetBlock.baseFee.toNat * withoutDust recipe.targetPools

/-- The fee of a draw. -/
def drawnFee : ℕ :=
  shared recipe targetBlock * (990000000 + random) / 1000000000 / recipe.backrunGasUsed

/-- Every product and sum on the way to the fee fits. -/
structure NoOverflow : Prop where
  frontrun : frontrunFee recipe targetBlock < 2 ^ 256
  share : frontrunFee recipe targetBlock ≤ recipe.revenue.toNat →
    shared recipe targetBlock * (990000000 + random) < 2 ^ 256

end Fee

section Bribe

variable {recipe : OptimalRecipe} {targetBlock : TargetBlock} {random : ℕ}

theorem withoutDust_eq_zero {pools : List TargetPool} (dust : ∀ pool ∈ pools, pool.hasDust = true) :
    withoutDust pools = 0 := by
  apply List.countP_eq_zero.mpr
  intro pool member
  simp [dust pool member]

/-- Each pool without dust adds the base fee for eleven thousand gas. -/
theorem addDust_eq {baseFee : Word} (pools : List TargetPool) (revenue : Word)
    (bounded : revenue.toNat + 11000 * baseFee.toNat * withoutDust pools < 2 ^ 256) :
    addDust baseFee pools revenue
      = .ok (BitVec.ofNat 256 (revenue.toNat + 11000 * baseFee.toNat * withoutDust pools)) := by
  induction pools generalizing revenue with
  | nil => simp [addDust, withoutDust, pure, Except.pure]
  | cons pool pools hypothesis =>
      cases dust : pool.hasDust with
      | true =>
          have count : withoutDust (pool :: pools) = withoutDust pools := by
            simp [withoutDust, dust]
          rw [count] at bounded ⊢
          rw [addDust, if_pos dust]
          exact hypothesis revenue bounded
      | false =>
          have count : withoutDust (pool :: pools) = withoutDust pools + 1 := by
            simp [withoutDust, dust]
          rw [count, Nat.mul_succ] at bounded ⊢
          have extra : baseFee.toNat * 11000 < 2 ^ 256 := by omega
          have sum : revenue.toNat + baseFee.toNat * 11000 < 2 ^ 256 := by omega
          rw [addDust, if_neg (by simp [dust]), fits_of_lt extra]
          show (fits (revenue.toNat + _) >>= _) = _
          rw [toNat_ofNat_of_lt extra, fits_of_lt sum]
          show addDust baseFee pools _ = _
          rw [hypothesis _ (by rw [toNat_ofNat_of_lt sum]; omega), toNat_ofNat_of_lt sum]
          congr 2
          omega

/-- The frontrun has to be covered. -/
theorem calculateBribe_notCovered (random : ℕ)
    (bounded : frontrunFee recipe targetBlock < 2 ^ 256)
    (short : recipe.revenue.toNat < frontrunFee recipe targetBlock) :
    calculateBribeForMaxFee recipe targetBlock random
      = .error (.error .frontrunGasFeesNotCovered) := by
  have missing : checkedSub recipe.revenue (BitVec.ofNat 256 (frontrunFee recipe targetBlock))
      = none := checkedSub_of_lt (by rwa [toNat_ofNat_of_lt bounded])
  unfold calculateBribeForMaxFee
  rw [show recipe.frontrunGasUsed * targetBlock.baseFee.toNat = frontrunFee recipe targetBlock
    from rfl]
  simp only [fits_of_lt bounded, ok_bind, missing]
  rfl

/-- With the frontrun covered, the fee of the draw is returned unless it is below the base fee. -/
theorem calculateBribe_covered (noOverflow : NoOverflow recipe targetBlock random)
    (used : 0 < recipe.backrunGasUsed)
    (covered : frontrunFee recipe targetBlock ≤ recipe.revenue.toNat) :
    drawnFee recipe targetBlock random < 2 ^ 256
    ∧ calculateBribeForMaxFee recipe targetBlock random
      = if drawnFee recipe targetBlock random < targetBlock.baseFee.toNat then
          .error (.error .maxFeeLessThanNextBaseFee)
        else .ok (BitVec.ofNat 256 (drawnFee recipe targetBlock random)) := by
  obtain ⟨frontrun, share⟩ := noOverflow
  have share := share covered
  have sharedFits : shared recipe targetBlock < 2 ^ 256 :=
    lt_of_le_of_lt (Nat.le_mul_of_pos_right _ (by omega)) share
  have leftFits : recipe.revenue.toNat - frontrunFee recipe targetBlock < 2 ^ 256 :=
    lt_of_le_of_lt (Nat.le_add_right _ _) sharedFits
  have feeFits : drawnFee recipe targetBlock random < 2 ^ 256 :=
    lt_of_le_of_lt ((Nat.div_le_self _ _).trans (Nat.div_le_self _ _)) share
  have left : checkedSub recipe.revenue (BitVec.ofNat 256 (frontrunFee recipe targetBlock))
      = some (BitVec.ofNat 256 (recipe.revenue.toNat - frontrunFee recipe targetBlock)) := by
    rw [checkedSub_of_le (by rwa [toNat_ofNat_of_lt frontrun]), toNat_ofNat_of_lt frontrun]
  have dust : addDust targetBlock.baseFee recipe.targetPools
      (BitVec.ofNat 256 (recipe.revenue.toNat - frontrunFee recipe targetBlock))
      = .ok (BitVec.ofNat 256 (shared recipe targetBlock)) := by
    rw [addDust_eq _ _ (by rwa [toNat_ofNat_of_lt leftFits]), toNat_ofNat_of_lt leftFits]
    rfl
  refine ⟨feeFits, ?_⟩
  unfold calculateBribeForMaxFee
  rw [show recipe.frontrunGasUsed * targetBlock.baseFee.toNat = frontrunFee recipe targetBlock
    from rfl]
  simp only [fits_of_lt frontrun, ok_bind, left, pure_bind, dust, toNat_ofNat_of_lt sharedFits,
    fits_of_lt share, toNat_ofNat_of_lt share, if_neg used.ne']
  rw [show shared recipe targetBlock * (990000000 + random) / 1000000000 / recipe.backrunGasUsed
    = drawnFee recipe targetBlock random from rfl]
  have below : BitVec.ofNat 256 (drawnFee recipe targetBlock random) < targetBlock.baseFee
      ↔ drawnFee recipe targetBlock random < targetBlock.baseFee.toNat := by
    rw [BitVec.lt_def, toNat_ofNat_of_lt feeFits]
  by_cases low : drawnFee recipe targetBlock random < targetBlock.baseFee.toNat
  · rw [if_pos (below.mpr low), if_pos low]
    rfl
  · -- the tip was checked by the comparison
    rw [if_neg (mt below.mp low), if_neg low,
      checkedSub_of_le (by rw [toNat_ofNat_of_lt feeFits]; omega)]
    rfl

/-- The gas of the backrun at the fee of a draw costs at most what is shared. -/
theorem backrun_cost_le (draw : random < 10000000) :
    recipe.backrunGasUsed * drawnFee recipe targetBlock random ≤ shared recipe targetBlock := by
  have bribe : shared recipe targetBlock * (990000000 + random) / 1000000000
      ≤ shared recipe targetBlock := by
    apply Nat.div_le_of_le_mul
    rw [Nat.mul_comm]
    exact Nat.mul_le_mul_right _ (by omega)
  exact (Nat.mul_div_le _ _).trans bribe

/-- A covered frontrun and its backrun cost at most the revenue and the extra for the dust. -/
theorem cost_le (draw : random < 10000000)
    (covered : frontrunFee recipe targetBlock ≤ recipe.revenue.toNat) :
    frontrunFee recipe targetBlock
        + recipe.backrunGasUsed * drawnFee recipe targetBlock random
      ≤ recipe.revenue.toNat
        + 11000 * targetBlock.baseFee.toNat * withoutDust recipe.targetPools := by
  calc frontrunFee recipe targetBlock + recipe.backrunGasUsed * drawnFee recipe targetBlock random
      ≤ frontrunFee recipe targetBlock + shared recipe targetBlock :=
        Nat.add_le_add_left (backrun_cost_le draw) _
    _ = recipe.revenue.toNat
        + 11000 * targetBlock.baseFee.toNat * withoutDust recipe.targetPools := by
        unfold shared
        omega

/-! ### The bribe never overspends -/

variable (recipe targetBlock random) in
/-- What is returned for a recipe and a draw: a fee that the revenue pays for, or one of two errors. -/
structure NeverOverspends : Prop where
  baseFee_le : ∀ maxFee, calculateBribeForMaxFee recipe targetBlock random = .ok maxFee →
    targetBlock.baseFee.toNat ≤ maxFee.toNat
  cost : ∀ maxFee, calculateBribeForMaxFee recipe targetBlock random = .ok maxFee →
    recipe.frontrunGasUsed * targetBlock.baseFee.toNat + recipe.backrunGasUsed * maxFee.toNat
      ≤ recipe.revenue.toNat + 11000 * targetBlock.baseFee.toNat * withoutDust recipe.targetPools
  allDust : (∀ pool ∈ recipe.targetPools, pool.hasDust = true) → ∀ maxFee,
    calculateBribeForMaxFee recipe targetBlock random = .ok maxFee →
    recipe.frontrunGasUsed * targetBlock.baseFee.toNat + recipe.backrunGasUsed * maxFee.toNat
      ≤ recipe.revenue.toNat
  notCovered : calculateBribeForMaxFee recipe targetBlock random
      = .error (.error .frontrunGasFeesNotCovered)
    ↔ recipe.revenue.toNat < recipe.frontrunGasUsed * targetBlock.baseFee.toNat
  belowBaseFee : calculateBribeForMaxFee recipe targetBlock random
      = .error (.error .maxFeeLessThanNextBaseFee)
    ↔ recipe.frontrunGasUsed * targetBlock.baseFee.toNat ≤ recipe.revenue.toNat
      ∧ drawnFee recipe targetBlock random < targetBlock.baseFee.toNat
  tip : calculateBribeForMaxFee recipe targetBlock random ≠ .error (.error .negativeMinerTip)
  noPanic : calculateBribeForMaxFee recipe targetBlock random ≠ .error .panic

theorem bribe_neverOverspends (used : 0 < recipe.backrunGasUsed) (draw : random < 10000000)
    (noOverflow : NoOverflow recipe targetBlock random) :
    NeverOverspends recipe targetBlock random := by
  by_cases covered : frontrunFee recipe targetBlock ≤ recipe.revenue.toNat
  · obtain ⟨feeFits, result⟩ := calculateBribe_covered noOverflow used covered
    have not_short : ¬ recipe.revenue.toNat < recipe.frontrunGasUsed * targetBlock.baseFee.toNat :=
      not_lt.mpr covered
    by_cases low : drawnFee recipe targetBlock random < targetBlock.baseFee.toNat
    · rw [if_pos low] at result
      constructor <;> simp [result, not_short, low]
      exact covered
    · rw [if_neg low] at result
      have cost := cost_le draw covered
      have fee : ∀ maxFee, calculateBribeForMaxFee recipe targetBlock random = .ok maxFee →
          maxFee.toNat = drawnFee recipe targetBlock random := by
        intro maxFee ok
        cases result.symm.trans ok
        exact toNat_ofNat_of_lt feeFits
      refine ⟨fun maxFee ok => ?_, fun maxFee ok => ?_, fun dust maxFee ok => ?_, ?_, ?_, ?_, ?_⟩
      · rw [fee maxFee ok]
        omega
      · rw [fee maxFee ok]
        exact cost
      · rw [withoutDust_eq_zero dust] at cost
        rw [fee maxFee ok]
        exact cost
      all_goals simp [result, not_short, low]
  · have result := calculateBribe_notCovered random noOverflow.frontrun (not_le.mp covered)
    constructor <;> simp [result]
    · exact not_le.mp covered
    · intro enough
      exact absurd enough covered

/-- A recipe for one pool without dust. -/
def dustlessRecipe : OptimalRecipe where
  frontrun := ⟨[], 0⟩
  frontrunGasUsed := 100000
  frontrunAccessList := []
  backrun := ⟨[], 0⟩
  backrunGasUsed := 100000
  backrunAccessList := []
  meats := []
  revenue := 10000000000000000
  targetPools := [⟨⟨0, 0, 0, 0⟩, .uniswapV2, false⟩]

theorem bribe_neverOverspends_dustless :
    NeverOverspends dustlessRecipe ⟨⟨17000000, 20000000000⟩, 1681000000⟩ 5000000 :=
  bribe_neverOverspends (by decide) (by decide) ⟨by decide, fun _ => by decide⟩

/-! ### The bundle -/

/-- The two fees of a bundle that is sent are paid for by the revenue and the extra for the dust. -/
theorem sendBundle_cost {maker : SandwichMaker} {bundle : BundleRequest}
    (bribe : NeverOverspends recipe targetBlock random)
    (sent : sendBundle recipe targetBlock maker random = .ok bundle) :
    ∃ (frontrun backrun : Eip1559TransactionRequest) (rawFrontrun rawBackrun : List Byte),
      bundle.transactions = rawFrontrun :: recipe.meats.map maker.rlp ++ [rawBackrun]
      ∧ maker.signEip1559 frontrun = some rawFrontrun ∧ maker.signEip1559 backrun = some rawBackrun
      ∧ recipe.frontrunGasUsed * frontrun.maxFeePerGas.toNat
          + recipe.backrunGasUsed * backrun.maxFeePerGas.toNat
        ≤ recipe.revenue.toNat
          + 11000 * targetBlock.baseFee.toNat * withoutDust recipe.targetPools := by
  obtain ⟨frontrun, backrun, rawFrontrun, rawBackrun, baseFee, -, maxFee, -, signedFrontrun,
    signedBackrun, transactions⟩ := sendBundle_fees sent
  refine ⟨frontrun, backrun, rawFrontrun, rawBackrun, transactions, signedFrontrun, signedBackrun, ?_⟩
  rw [baseFee]
  exact bribe.cost _ maxFee

end Bribe

end Sando.Runner
