/-
Amounts as a mantissa and an exponent.

An amount that does not fit is divided by growing powers of a base until the quotient does.
`Shortens` says that an exponent is the first one for which it does, and `truncate` is what is then
left of the amount. When mantissas are the numbers of so many digits, the exponent is a logarithm
(`Shortens.exponent_eq`) and nothing representable lies between what is left and the amount
(`Shortens.isGreatest`). An amount that is representable is not changed at all
(`Shortens.truncate_representable`), although its mantissa and its exponent may be.
-/

import Mathlib.Algebra.Order.Ring.Nat
import Mathlib.Data.Nat.Log
import Mathlib.Order.Bounds.Defs

namespace Sando.Mantissa

/-- The first exponent for which the quotient fits. -/
structure Shortens (base : ℕ) (fits : ℕ → Prop) (amount exponent : ℕ) : Prop where
  fitting : fits (amount / base ^ exponent)
  first : ∀ earlier, earlier < exponent → ¬ fits (amount / base ^ earlier)

/-- The amount without its low digits. -/
def truncate (base amount exponent : ℕ) : ℕ := amount / base ^ exponent * base ^ exponent

/-- The numbers that have a mantissa of so many digits. -/
def Representable (base digits number : ℕ) : Prop :=
  ∃ mantissa exponent, mantissa < base ^ digits ∧ number = mantissa * base ^ exponent

section Truncate

variable {base amount exponent : ℕ}

theorem truncate_le : truncate base amount exponent ≤ amount := Nat.div_mul_le_self _ _

theorem truncate_eq_self_iff : truncate base amount exponent = amount ↔ base ^ exponent ∣ amount :=
  Nat.dvd_iff_div_mul_eq _ _ |>.symm

end Truncate

section Shortens

variable {base amount exponent other : ℕ} {fits narrow wide : ℕ → Prop}

theorem Shortens.le (shortens : Shortens base fits amount exponent)
    (fitting : fits (amount / base ^ other)) : exponent ≤ other := by
  by_contra later
  exact shortens.first other (not_le.mp later) fitting

theorem Shortens.unique (shortens : Shortens base fits amount exponent)
    (again : Shortens base fits amount other) : exponent = other :=
  le_antisymm (shortens.le again.fitting) (again.le shortens.fitting)

/-- A narrower form has the same exponent exactly when the mantissa of the wider one fits it. -/
theorem Shortens.exponent_eq_iff (stronger : ∀ mantissa, narrow mantissa → wide mantissa)
    (shortens : Shortens base narrow amount exponent) (wider : Shortens base wide amount other) :
    exponent = other ↔ narrow (amount / base ^ other) := by
  constructor
  · rintro rfl
    exact shortens.fitting
  · intro fitting
    exact le_antisymm (shortens.le fitting) (wider.le (stronger _ shortens.fitting))

/-- An amount with a mantissa that fits is left as it is, whatever its mantissa becomes. -/
theorem Shortens.truncate_representable {mantissa : ℕ} (positive : 0 < base)
    (fitting : fits mantissa) (shortens : Shortens base fits (mantissa * base ^ other) exponent) :
    truncate base (mantissa * base ^ other) exponent = mantissa * base ^ other := by
  have early : exponent ≤ other := shortens.le (by
    rwa [Nat.mul_div_cancel _ (Nat.pow_pos positive)])
  rw [truncate_eq_self_iff]
  exact (pow_dvd_pow base early).trans (Nat.dvd_mul_left _ _)

end Shortens

section Digits

variable {base amount exponent digits : ℕ}

/-- The exponent leaves the leading digits. -/
theorem Shortens.exponent_eq (nonempty : 0 < digits) (wide : 1 < base)
    (shortens : Shortens base (· < base ^ digits) amount exponent) :
    exponent = Nat.log base amount - (digits - 1) := by
  have positive (place : ℕ) : 0 < base ^ place := Nat.pow_pos (by omega)
  have fitting : amount < base ^ (digits + exponent) := by
    have short := shortens.fitting
    rwa [Nat.div_lt_iff_lt_mul (positive _), ← pow_add] at short
  cases exponent with
  | zero =>
    have short : Nat.log base amount < digits := Nat.log_lt_of_lt_pow' (by omega) fitting
    omega
  | succ earlier =>
    have long := not_lt.mp (shortens.first earlier (Nat.lt_succ_self _))
    rw [Nat.le_div_iff_mul_le (positive _), ← pow_add] at long
    rw [Nat.log_eq_of_pow_le_of_lt_pow long fitting]
    omega

/-- What is left is the greatest representable number that does not exceed the amount. -/
theorem Shortens.isGreatest (nonempty : 0 < digits) (wide : 1 < base)
    (shortens : Shortens base (· < base ^ digits) amount exponent) :
    IsGreatest {number | number ≤ amount ∧ Representable base digits number}
      (truncate base amount exponent) := by
  have positive (place : ℕ) : 0 < base ^ place := Nat.pow_pos (by omega)
  refine ⟨⟨truncate_le, _, exponent, shortens.fitting, rfl⟩, ?_⟩
  rintro _ ⟨below, mantissa, place, small, rfl⟩
  by_cases late : exponent ≤ place
  · -- a multiple of the power that was divided by
    obtain ⟨extra, rfl⟩ := Nat.exists_eq_add_of_le late
    rw [pow_add, Nat.mul_comm (base ^ exponent), ← Nat.mul_assoc] at below ⊢
    exact Nat.mul_le_mul_right _ ((Nat.le_div_iff_mul_le (positive _)).mpr below)
  · -- the exponent before the first one left a quotient that is too long
    obtain ⟨earlier, rfl⟩ := Nat.exists_eq_succ_of_ne_zero (show exponent ≠ 0 by omega)
    have long := not_lt.mp (shortens.first earlier (Nat.lt_succ_self _))
    rw [Nat.le_div_iff_mul_le (positive _), ← pow_add] at long
    have leading : base ^ (digits - 1) ≤ amount / base ^ (earlier + 1) := by
      rwa [Nat.le_div_iff_mul_le (positive _), ← pow_add,
        show digits - 1 + (earlier + 1) = digits + earlier by omega]
    calc mantissa * base ^ place
        ≤ base ^ digits * base ^ earlier :=
          Nat.mul_le_mul small.le (Nat.pow_le_pow_right (by omega) (by omega))
      _ = base ^ (digits - 1) * base ^ (earlier + 1) := by
          rw [← pow_add, ← pow_add]
          congr 1
          omega
      _ ≤ truncate base amount (earlier + 1) := Nat.mul_le_mul_right _ leading

end Digits

end Sando.Mantissa
