/-
The base fee of the next block.

By consensus the base fee of a child block rises by at least one wei if its parent used more gas than its
target. `calculateNextBlockBaseFee` rounds the rise down, so it is a wei too low where the rise is less
than one (`baseFee_predicted_iff`): the frontrun, which pays the base fee of its target block, is then not
valid in it.
-/

import Sando.Runner.Block
import Sando.Runner.Bribe

namespace Sando.Runner

open Sando.Evm Sando.Simulate

/-! ### Consensus -/

/-- The base fee of the child of a block. -/
def childBaseFee (baseFee gasUsed gasLimit : ℕ) : ℕ :=
  let target := gasLimit / 2
  if gasUsed = target then baseFee
  else if target < gasUsed then baseFee + max (baseFee * (gasUsed - target) / target / 8) 1
  else baseFee - baseFee * (target - gasUsed) / target / 8

/-- A header of the chain, with a base fee whose products fit. -/
structure ValidHeader (block : Block) (baseFee : Word) : Prop where
  baseFeePerGas : block.baseFeePerGas = some baseFee
  gasLimit : 5000 ≤ block.gasLimit.toNat
  gasUsed : block.gasUsed.toNat ≤ block.gasLimit.toNat
  above : baseFee.toNat * (block.gasUsed.toNat - block.gasLimit.toNat / 2) < 2 ^ 256
  below : baseFee.toNat * (block.gasLimit.toNat / 2 - block.gasUsed.toNat) < 2 ^ 256

/-- The rise or fall of a base fee. -/
def change (baseFee gasUsedDelta gasTarget : ℕ) : ℕ := baseFee * gasUsedDelta / gasTarget / 8

theorem one_le_change {baseFee gasUsedDelta gasTarget : ℕ} (target : 0 < gasTarget) :
    1 ≤ change baseFee gasUsedDelta gasTarget ↔ 8 * gasTarget ≤ baseFee * gasUsedDelta := by
  unfold change
  rw [Nat.le_div_iff_mul_le (by decide), Nat.le_div_iff_mul_le target, Nat.one_mul]

/-- A base fee does not fall below zero. -/
theorem change_le {baseFee gasUsedDelta gasTarget : ℕ} (delta : gasUsedDelta ≤ gasTarget) :
    change baseFee gasUsedDelta gasTarget ≤ baseFee := by
  refine (Nat.div_le_self _ _).trans (Nat.div_le_of_le_mul ?_)
  rw [Nat.mul_comm gasTarget]
  exact Nat.mul_le_mul_left _ delta

/-! ### The prediction -/

section Prediction

variable {block : Block} {baseFee : Word}

theorem baseFeePerGasDelta_eq {gasUsedDelta gasTarget : Word}
    (bounded : baseFee.toNat * gasUsedDelta.toNat < 2 ^ 256) (target : 0 < gasTarget.toNat) :
    baseFeePerGasDelta baseFee gasUsedDelta gasTarget
      = .ok (BitVec.ofNat 256 (change baseFee.toNat gasUsedDelta.toNat gasTarget.toNat)) := by
  have nonzero : gasTarget ≠ 0 := fun zero => by
    rw [zero] at target
    exact absurd target (by decide)
  have quotient : BitVec.ofNat 256 (baseFee.toNat * gasUsedDelta.toNat) / gasTarget / 8
      = BitVec.ofNat 256 (change baseFee.toNat gasUsedDelta.toNat gasTarget.toNat) := by
    have small : change baseFee.toNat gasUsedDelta.toNat gasTarget.toNat < 2 ^ 256 :=
      lt_of_le_of_lt ((Nat.div_le_self _ _).trans (Nat.div_le_self _ _)) bounded
    apply BitVec.eq_of_toNat_eq
    rw [BitVec.toNat_udiv, BitVec.toNat_udiv, toNat_ofNat_of_lt bounded, toNat_ofNat_of_lt small]
    rfl
  unfold baseFeePerGasDelta
  simp only [fits_of_lt bounded, ok_bind, if_neg nonzero, quotient]
  rfl

theorem toNat_gasTarget (gasLimit : Word) : (gasLimit / 2).toNat = gasLimit.toNat / 2 :=
  BitVec.toNat_udiv

/-- Up to the target the fee falls. -/
theorem calculate_within (valid : ValidHeader block baseFee)
    (within : block.gasUsed.toNat ≤ block.gasLimit.toNat / 2) :
    calculateNextBlockBaseFee block = .ok (BitVec.ofNat 256 (baseFee.toNat
      - change baseFee.toNat (block.gasLimit.toNat / 2 - block.gasUsed.toNat)
        (block.gasLimit.toNat / 2))) := by
  obtain ⟨header, limit, -, -, bounded⟩ := valid
  have target := toNat_gasTarget block.gasLimit
  unfold calculateNextBlockBaseFee
  simp only [header, Option.getD_some]
  by_cases same : block.gasUsed = block.gasLimit / 2
  · have used : block.gasUsed.toNat = block.gasLimit.toNat / 2 := by rw [same, target]
    rw [if_pos same, used]
    simp [change]
    rfl
  · have not_above : ¬ block.gasLimit / 2 < block.gasUsed := by
      rw [BitVec.lt_def, target]
      exact not_lt.mpr within
    have delta : (block.gasLimit / 2 - block.gasUsed).toNat
        = block.gasLimit.toNat / 2 - block.gasUsed.toNat := by
      rw [BitVec.toNat_sub_of_le (BitVec.le_def.mpr (by rwa [target])), target]
    have fall : change baseFee.toNat (block.gasLimit.toNat / 2 - block.gasUsed.toNat)
        (block.gasLimit.toNat / 2) ≤ baseFee.toNat := change_le (Nat.sub_le _ _)
    have small : change baseFee.toNat (block.gasLimit.toNat / 2 - block.gasUsed.toNat)
        (block.gasLimit.toNat / 2) < 2 ^ 256 := lt_of_le_of_lt fall baseFee.isLt
    rw [if_neg same, if_neg not_above,
      baseFeePerGasDelta_eq (by rwa [delta]) (by rw [target]; omega), delta, target, ok_bind,
      checkedSub_of_le (by rwa [toNat_ofNat_of_lt small]), toNat_ofNat_of_lt small]
    rfl

/-- Above the target it rises. -/
theorem calculate_above (valid : ValidHeader block baseFee)
    (above : block.gasLimit.toNat / 2 < block.gasUsed.toNat) :
    calculateNextBlockBaseFee block = fits (baseFee.toNat
      + change baseFee.toNat (block.gasUsed.toNat - block.gasLimit.toNat / 2)
        (block.gasLimit.toNat / 2)) := by
  obtain ⟨header, limit, -, bounded, -⟩ := valid
  have target := toNat_gasTarget block.gasLimit
  have not_same : block.gasUsed ≠ block.gasLimit / 2 := fun same => by
    rw [same, target] at above
    exact lt_irrefl _ above
  have is_above : block.gasLimit / 2 < block.gasUsed := by
    rwa [BitVec.lt_def, target]
  have delta : (block.gasUsed - block.gasLimit / 2).toNat
      = block.gasUsed.toNat - block.gasLimit.toNat / 2 := by
    rw [BitVec.toNat_sub_of_le (BitVec.le_of_lt is_above), target]
  have small : change baseFee.toNat (block.gasUsed.toNat - block.gasLimit.toNat / 2)
      (block.gasLimit.toNat / 2) < 2 ^ 256 :=
    lt_of_le_of_lt ((Nat.div_le_self _ _).trans (Nat.div_le_self _ _)) bounded
  unfold calculateNextBlockBaseFee
  simp only [header, Option.getD_some]
  rw [if_neg not_same, if_pos is_above,
    baseFeePerGasDelta_eq (by rwa [delta]) (by rw [target]; omega), delta, target, ok_bind,
    toNat_ofNat_of_lt small]

/-- The rise is at least a wei, and the sum fits, where there is a rise. -/
def RisesByOne (block : Block) (baseFee : Word) : Prop :=
  block.gasUsed.toNat ≤ block.gasLimit.toNat / 2
  ∨ 8 * (block.gasLimit.toNat / 2)
      ≤ baseFee.toNat * (block.gasUsed.toNat - block.gasLimit.toNat / 2)
    ∧ baseFee.toNat + baseFee.toNat * (block.gasUsed.toNat - block.gasLimit.toNat / 2)
        / (block.gasLimit.toNat / 2) / 8 < 2 ^ 256

/-- The fee that consensus asks for is the one that is calculated. -/
theorem calculate_eq_child_iff (valid : ValidHeader block baseFee) :
    (∃ fee, calculateNextBlockBaseFee block = .ok fee
      ∧ fee.toNat = childBaseFee baseFee.toNat block.gasUsed.toNat block.gasLimit.toNat)
      ↔ RisesByOne block baseFee := by
  have limit := valid.gasLimit
  by_cases within : block.gasUsed.toNat ≤ block.gasLimit.toNat / 2
  · refine iff_of_true ?_ (Or.inl within)
    have small : baseFee.toNat - change baseFee.toNat
        (block.gasLimit.toNat / 2 - block.gasUsed.toNat) (block.gasLimit.toNat / 2) < 2 ^ 256 :=
      lt_of_le_of_lt (Nat.sub_le _ _) baseFee.isLt
    refine ⟨_, calculate_within valid within, ?_⟩
    rw [toNat_ofNat_of_lt small]
    unfold childBaseFee change
    rcases within.eq_or_lt with same | below
    · simp [same]
    · simp only [if_neg below.ne, if_neg below.not_gt]
  · have above := not_le.mp within
    have target : 0 < block.gasLimit.toNat / 2 := by omega
    have one : 1 ≤ change baseFee.toNat (block.gasUsed.toNat - block.gasLimit.toNat / 2)
        (block.gasLimit.toNat / 2) ↔ 8 * (block.gasLimit.toNat / 2)
          ≤ baseFee.toNat * (block.gasUsed.toNat - block.gasLimit.toNat / 2) := one_le_change target
    have child : childBaseFee baseFee.toNat block.gasUsed.toNat block.gasLimit.toNat
        = baseFee.toNat + max (change baseFee.toNat
          (block.gasUsed.toNat - block.gasLimit.toNat / 2) (block.gasLimit.toNat / 2)) 1 := by
      unfold childBaseFee change
      simp only [if_neg above.ne', if_pos above]
    rw [calculate_above valid above, child]
    unfold RisesByOne
    rw [← one, or_iff_right within]
    show _ ↔ _ ∧ baseFee.toNat + change _ _ _ < 2 ^ 256
    generalize change baseFee.toNat (block.gasUsed.toNat - block.gasLimit.toNat / 2)
      (block.gasLimit.toNat / 2) = rise
    constructor
    · rintro ⟨fee, ok, same⟩
      obtain ⟨value, bounded⟩ := fits_eq_ok ok
      exact ⟨by omega, bounded⟩
    · rintro ⟨atLeast, bounded⟩
      refine ⟨_, fits_of_lt bounded, ?_⟩
      rw [toNat_ofNat_of_lt bounded, max_eq_left atLeast]

/-! ### Where the prediction goes -/

variable (block) in
/-- A target block that is made from a block, by itself or by the oracle. -/
inductive IsTarget : TargetBlock → Prop
  | found {target : TargetBlock} : findNextBlockInfo block = .ok target → IsTarget target
  | started {oracle : BlockOracle} : BlockOracle.new block = .ok oracle → IsTarget oracle.nextBlock
  | updated {oracle oracle' : BlockOracle} :
      oracle.updateBaseFee block = .ok oracle' → IsTarget oracle'.nextBlock

/-- A target block has the base fee that is calculated. -/
theorem isTarget_baseFee {target : TargetBlock} (isTarget : IsTarget block target) :
    calculateNextBlockBaseFee block = .ok target.baseFee := by
  cases isTarget with
  | found found =>
      unfold findNextBlockInfo at found
      obtain ⟨number, _, found⟩ := except_bind found
      obtain ⟨timestamp, _, found⟩ := except_bind found
      obtain ⟨baseFee, calculated, found⟩ := except_bind found
      cases found
      exact calculated
  | started started =>
      unfold BlockOracle.new at started
      cases number : block.number with
      | none =>
          rw [number] at started
          cases started
      | some number' =>
          rw [number] at started
          obtain ⟨nextNumber, _, started⟩ := except_bind started
          obtain ⟨nextTimestamp, _, started⟩ := except_bind started
          obtain ⟨baseFee, calculated, started⟩ := except_bind started
          cases started
          exact calculated
  | updated updated =>
      unfold BlockOracle.updateBaseFee at updated
      obtain ⟨baseFee, calculated, updated⟩ := except_bind updated
      cases updated
      exact calculated

variable (block baseFee) in
/-- The base fee of the next block is the one that consensus asks for: it is calculated, it is that of
every target block, and a frontrun for one can pay it. -/
structure Predicted : Prop where
  calculated : ∃ fee, calculateNextBlockBaseFee block = .ok fee
    ∧ fee.toNat = childBaseFee baseFee.toNat block.gasUsed.toNat block.gasLimit.toNat
  oracle : ∀ oracle : BlockOracle, ∃ oracle', oracle.updateBaseFee block = .ok oracle'
    ∧ oracle'.nextBlock.baseFee.toNat
      = childBaseFee baseFee.toNat block.gasUsed.toNat block.gasLimit.toNat
  target : ∀ target, IsTarget block target → target.baseFee.toNat
    = childBaseFee baseFee.toNat block.gasUsed.toNat block.gasLimit.toNat
  frontrun : ∀ target recipe maker random bundle, IsTarget block target →
    sendBundle recipe target maker random = .ok bundle →
    ∃ request raw, maker.signEip1559 request = some raw ∧ bundle.transactions.head? = some raw
      ∧ childBaseFee baseFee.toNat block.gasUsed.toNat block.gasLimit.toNat
        ≤ request.maxFeePerGas.toNat

theorem baseFee_predicted_iff (valid : ValidHeader block baseFee) :
    Predicted block baseFee ↔ RisesByOne block baseFee := by
  rw [← calculate_eq_child_iff valid]
  refine ⟨Predicted.calculated, fun calculated => ?_⟩
  obtain ⟨fee, ok, same⟩ := calculated
  have target : ∀ target, IsTarget block target → target.baseFee.toNat
      = childBaseFee baseFee.toNat block.gasUsed.toNat block.gasLimit.toNat := by
    intro target isTarget
    cases ok.symm.trans (isTarget_baseFee isTarget)
    exact same
  refine ⟨⟨fee, ok, same⟩, fun oracle => ?_, target, ?_⟩
  · refine ⟨{
      latestBlock := { oracle.latestBlock with baseFee := block.baseFeePerGas.getD 0 }
      nextBlock := { oracle.nextBlock with baseFee := fee } }, ?_, same⟩
    unfold BlockOracle.updateBaseFee
    rw [ok]
    rfl
  · intro next recipe maker random bundle isTarget sent
    obtain ⟨request, _, raw, _, paid, -, -, -, signed, -, transactions⟩ := sendBundle_fees sent
    refine ⟨request, raw, signed, by rw [transactions]; rfl, ?_⟩
    rw [paid, target next isTarget]

/-- A full block. -/
def fullBlock : Block where
  number := some 17000000
  timestamp := 1681000000
  baseFeePerGas := some 20000000000
  gasUsed := 30000000
  gasLimit := 30000000

theorem baseFee_predicted_fullBlock : Predicted fullBlock 20000000000 :=
  (baseFee_predicted_iff ⟨rfl, by decide, by decide, by decide, by decide⟩).mpr
    (Or.inr ⟨by decide, by decide⟩)

/-- A base fee of a few wei does not rise for a single unit of gas. -/
theorem baseFee_not_predicted : ¬ Predicted { fullBlock with
    baseFeePerGas := some 7
    gasUsed := 15000001 } 7 := by
  intro predicted
  obtain ⟨fee, ok, same⟩ := predicted.calculated
  have calculated : calculateNextBlockBaseFee { fullBlock with
      baseFeePerGas := some 7
      gasUsed := 15000001 } = .ok 7 := by decide
  cases calculated.symm.trans ok
  exact absurd same (by decide)

end Prediction

end Sando.Runner
