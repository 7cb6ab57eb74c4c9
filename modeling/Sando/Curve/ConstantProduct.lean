/-
Swaps that keep a product.

A pair holds two reserves. It takes an amount into the one and pays out of the other, so that the product
of the reserves does not fall; of the amount only a share counts, `keep` parts of `scale`. `quote` is the
usual formula, rounded down. It is the greatest output that the pair can pay (`isGreatest_quote`), and
never the whole reserve.
-/

import Mathlib.Order.Bounds.Defs
import Mathlib.Tactic.Ring

namespace Sando.Curve

section ConstantProduct

variable (keep scale reserveIn reserveOut amountIn : ℕ)

/-- The output for an amount. -/
def quote : ℕ := amountIn * keep * reserveOut / (reserveIn * scale + amountIn * keep)

/-- An output does not lower the product, in parts of the scale. -/
def KeepsProduct (output : ℕ) : Prop :=
  reserveIn * reserveOut * scale ≤ (reserveIn * scale + amountIn * keep) * (reserveOut - output)

variable {keep scale reserveIn reserveOut amountIn}

/-- Nothing for nothing. -/
@[simp] theorem quote_zero : quote keep scale reserveIn reserveOut 0 = 0 := by
  simp [quote]

theorem quote_lt (inside : 0 < reserveIn * scale) (outside : 0 < reserveOut) :
    quote keep scale reserveIn reserveOut amountIn < reserveOut := by
  apply Nat.div_lt_of_lt_mul
  apply Nat.mul_lt_mul_of_pos_right _ outside
  omega

/-- The outputs that keep the product are those up to the quote. -/
theorem keepsProduct_iff (inside : 0 < reserveIn * scale) (outside : 0 < reserveOut) {output : ℕ} :
    KeepsProduct keep scale reserveIn reserveOut amountIn output
      ↔ output ≤ quote keep scale reserveIn reserveOut amountIn := by
  have positive : 0 < reserveIn * scale + amountIn * keep := by omega
  by_cases held : output ≤ reserveOut
  · have product : reserveIn * reserveOut * scale + amountIn * keep * reserveOut
        = (reserveIn * scale + amountIn * keep) * reserveOut := by ring
    have paid := Nat.mul_le_mul_left (reserveIn * scale + amountIn * keep) held
    unfold KeepsProduct quote
    rw [Nat.le_div_iff_mul_le positive, Nat.mul_sub, Nat.mul_comm output]
    omega
  · -- neither: the pair does not have so much
    have below : quote keep scale reserveIn reserveOut amountIn < reserveOut := quote_lt inside outside
    have product : 0 < reserveIn * reserveOut * scale := by
      rw [Nat.mul_right_comm]
      exact Nat.mul_pos inside outside
    have empty : reserveOut - output = 0 := by omega
    refine iff_of_false ?_ (by omega)
    unfold KeepsProduct
    rw [empty, Nat.mul_zero]
    omega

theorem isGreatest_quote (inside : 0 < reserveIn * scale) (outside : 0 < reserveOut) :
    IsGreatest {output | KeepsProduct keep scale reserveIn reserveOut amountIn output}
      (quote keep scale reserveIn reserveOut amountIn) :=
  ⟨(keepsProduct_iff inside outside).mpr le_rfl, fun _ keeps =>
    (keepsProduct_iff inside outside).mp keeps⟩

/-- A pair whose product does not fall pays at most what it gives for the amount without a fee. -/
theorem payout_le_quote (inside : 0 < reserveIn) (outside : 0 < reserveOut) {balanceIn balanceOut : ℕ}
    (product : reserveIn * reserveOut ≤ balanceIn * balanceOut)
    (brought : balanceIn ≤ reserveIn + amountIn) :
    reserveOut - balanceOut ≤ quote 1 1 reserveIn reserveOut amountIn := by
  apply (keepsProduct_iff (by rwa [Nat.mul_one]) outside).mp
  unfold KeepsProduct
  rw [Nat.mul_one, Nat.mul_one, Nat.mul_one]
  by_cases paid : balanceOut ≤ reserveOut
  · rw [Nat.sub_sub_self paid]
    exact product.trans (Nat.mul_le_mul_right _ brought)
  · rw [Nat.sub_eq_zero_of_le (Nat.le_of_not_le paid), Nat.sub_zero]
    exact Nat.mul_le_mul_right _ (Nat.le_add_right _ _)

end ConstantProduct

end Sando.Curve
