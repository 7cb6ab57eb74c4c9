/-
Searching an interval of naturals on a grid.

`point` splits an interval into equal parts, rounded down; `lastMax` is the index of the last highest
value. On a strictly unimodal function the peak lies between the neighbours of the highest point
(`Unimodal.lt_next`, `Unimodal.previous_lt`), and a grid finer than the interval contains the peak
(`Unimodal.lastMax_dense`).
-/

import Mathlib.Order.Interval.Set.Basic
import Mathlib.Order.Monotone.Basic
import Mathlib.Tactic.Common

namespace Sando.Search

/-! ### Points -/

/-- The point of an index: a share of the interval above its lower bound. -/
def point (parts lower upper index : ℕ) : ℕ := lower + (upper - lower) * index / parts

section Points

variable {parts lower upper : ℕ}

@[simp] theorem point_zero : point parts lower upper 0 = lower := by
  unfold point
  rw [Nat.mul_zero, Nat.zero_div, Nat.add_zero]

@[simp] theorem point_last (several : 0 < parts) (ordered : lower ≤ upper) :
    point parts lower upper parts = upper := by
  unfold point
  rw [Nat.mul_div_cancel _ several]
  omega

theorem lower_le_point (index : ℕ) : lower ≤ point parts lower upper index := Nat.le_add_right _ _

theorem point_mono : Monotone (point parts lower upper) := fun _ _ le =>
  Nat.add_le_add_left (Nat.div_le_div_right (Nat.mul_le_mul_left _ le)) _

theorem point_le_upper (several : 0 < parts) (ordered : lower ≤ upper) {index : ℕ}
    (bound : index ≤ parts) : point parts lower upper index ≤ upper :=
  (point_mono bound).trans_eq (point_last several ordered)

/-- Points of a wide interval are distinct. -/
theorem point_lt_succ (several : 0 < parts) (wide : parts ≤ upper - lower) (index : ℕ) :
    point parts lower upper index < point parts lower upper (index + 1) := by
  unfold point
  have step : (upper - lower) * index / parts + 1 ≤ (upper - lower) * (index + 1) / parts := by
    rw [← Nat.add_div_right _ several]
    refine Nat.div_le_div_right ?_
    rw [Nat.mul_add_one]
    exact Nat.add_le_add_left wide _
  omega

/-- Points of a narrow interval leave no gap. -/
theorem point_succ_le (several : 0 < parts) (narrow : upper - lower ≤ parts) (index : ℕ) :
    point parts lower upper (index + 1) ≤ point parts lower upper index + 1 := by
  unfold point
  have step : (upper - lower) * (index + 1) / parts ≤ (upper - lower) * index / parts + 1 := by
    rw [← Nat.add_div_right _ several]
    refine Nat.div_le_div_right ?_
    rw [Nat.mul_add_one]
    exact Nat.add_le_add_left narrow _
  omega

/-- Every number of a narrow interval is a point. -/
theorem exists_point (several : 0 < parts) (ordered : lower ≤ upper) (narrow : upper - lower ≤ parts)
    {number : ℕ} (above : lower ≤ number) (below : number ≤ upper) :
    ∃ index ≤ parts, point parts lower upper index = number := by
  have reached : ∀ index ≤ parts, number ≤ point parts lower upper index →
      ∃ earlier ≤ parts, point parts lower upper earlier = number := by
    intro index
    induction index with
    | zero =>
      intro _ le
      rw [point_zero] at le
      exact ⟨0, Nat.zero_le _, by rw [point_zero]; omega⟩
    | succ index ih =>
      intro bound le
      by_cases before : number ≤ point parts lower upper index
      · exact ih (by omega) before
      · have step := point_succ_le several narrow index
        exact ⟨index + 1, bound, by omega⟩
  exact reached parts le_rfl (below.trans_eq (point_last several ordered).symm)

end Points

/-! ### The last highest value -/

section LastMax

variable {α : Type*} [LinearOrder α]

/-- The index of the last highest of the values up to an index. -/
def lastMax (value : ℕ → α) : ℕ → ℕ
  | 0 => 0
  | count + 1 => if value (lastMax value count) ≤ value (count + 1) then count + 1
    else lastMax value count

variable (value : ℕ → α)

theorem lastMax_le (count : ℕ) : lastMax value count ≤ count := by
  induction count with
  | zero => exact le_rfl
  | succ count ih =>
    unfold lastMax
    split
    · exact le_rfl
    · exact ih.trans (Nat.le_succ _)

/-- Only the values up to the index matter. -/
theorem lastMax_congr {value other : ℕ → α} {count : ℕ}
    (same : ∀ index ≤ count, value index = other index) : lastMax value count = lastMax other count := by
  induction count with
  | zero => rfl
  | succ count ih =>
    have earlier := ih fun index bound => same index (bound.trans (Nat.le_succ _))
    have bound : lastMax other count ≤ count + 1 := (lastMax_le other count).trans (Nat.le_succ _)
    unfold lastMax
    rw [earlier, same _ bound, same _ le_rfl]

theorem le_value_lastMax {count index : ℕ} (bound : index ≤ count) :
    value index ≤ value (lastMax value count) := by
  induction count with
  | zero => exact (congrArg value (Nat.le_zero.mp bound)).le
  | succ count ih =>
    unfold lastMax
    by_cases new : value (lastMax value count) ≤ value (count + 1)
    · rw [if_pos new]
      rcases Nat.le_succ_iff.mp bound with earlier | rfl
      · exact (ih earlier).trans new
      · exact le_rfl
    · rw [if_neg new]
      rcases Nat.le_succ_iff.mp bound with earlier | rfl
      · exact ih earlier
      · exact (not_le.mp new).le

/-- Later values are lower. -/
theorem value_lt_lastMax {count index : ℕ} (after : lastMax value count < index)
    (bound : index ≤ count) : value index < value (lastMax value count) := by
  induction count with
  | zero => exact absurd (Nat.zero_le _) (not_le.mpr (after.trans_le bound))
  | succ count ih =>
    unfold lastMax at after ⊢
    by_cases new : value (lastMax value count) ≤ value (count + 1)
    · rw [if_pos new] at after
      exact absurd bound (not_le.mpr after)
    · rw [if_neg new] at after ⊢
      rcases Nat.le_succ_iff.mp bound with earlier | rfl
      · exact ih after earlier
      · exact not_le.mp new

end LastMax

/-! ### Unimodal functions -/

section Unimodal

variable {α : Type*} [LinearOrder α]

/-- Strictly increasing up to the peak and strictly decreasing from there. -/
structure Unimodal (value : ℕ → α) (first peak last : ℕ) : Prop where
  first_le : first ≤ peak
  le_last : peak ≤ last
  increasing : StrictMonoOn value (Set.Icc first peak)
  decreasing : StrictAntiOn value (Set.Icc peak last)

namespace Unimodal

variable {value : ℕ → α} {first peak last x y : ℕ} (unimodal : Unimodal value first peak last)

include unimodal

/-- To the right of the peak values fall. -/
theorem lt_of_peak_le (right : peak ≤ x) (lt : x < y) (inside : y ≤ last) : value y < value x :=
  unimodal.decreasing ⟨right, lt.le.trans inside⟩ ⟨right.trans lt.le, inside⟩ lt

/-- To the left of the peak values rise. -/
theorem lt_of_le_peak (inside : first ≤ x) (lt : x < y) (left : y ≤ peak) : value x < value y :=
  unimodal.increasing ⟨inside, lt.le.trans left⟩ ⟨inside.trans lt.le, left⟩ lt

theorem value_lt_peak (above : first ≤ x) (below : x ≤ last) (other : x ≠ peak) :
    value x < value peak := by
  rcases Nat.lt_or_gt_of_ne other with left | right
  · exact unimodal.lt_of_le_peak above left le_rfl
  · exact unimodal.lt_of_peak_le le_rfl right below

/-- The peak lies before a later point with a lower value. -/
theorem lt_next (inside : first ≤ x) (lt : x < y) (lower : value y < value x) : peak < y := by
  by_contra after
  exact lower.not_gt (unimodal.lt_of_le_peak inside lt (not_lt.mp after))

/-- The peak lies behind an earlier point whose value is not higher. -/
theorem previous_lt (inside : y ≤ last) (lt : x < y) (lower : value x ≤ value y) : x < peak := by
  by_contra before
  exact lower.not_gt (unimodal.lt_of_peak_le (not_lt.mp before) lt inside)

/-- Of three points one has a value that the others do not have. -/
theorem not_constant {z : ℕ} (above : first ≤ x) (less : x < y) (lesser : y < z) (below : z ≤ last)
    (same : value x = value y) : value y ≠ value z := by
  intro also
  rcases le_total peak y with right | left
  · exact (unimodal.lt_of_peak_le right lesser below).ne also.symm
  · exact (unimodal.lt_of_le_peak above less left).ne same

/-- The highest point of a grid without gaps is the peak. -/
theorem lastMax_dense {parts lower upper : ℕ} (several : 0 < parts) (narrow : upper - lower ≤ parts)
    (inside : first ≤ lower) (within : upper ≤ last) (above : lower ≤ peak) (below : peak ≤ upper) :
    point parts lower upper (lastMax (fun index => value (point parts lower upper index)) parts)
      = peak := by
  have ordered : lower ≤ upper := above.trans below
  obtain ⟨index, bound, found⟩ := exists_point several ordered narrow above below
  have highest := le_value_lastMax (fun index => value (point parts lower upper index)) bound
  by_contra other
  refine highest.not_gt ?_
  rw [found]
  exact unimodal.value_lt_peak (inside.trans (lower_le_point _))
    ((point_le_upper several ordered (lastMax_le _ _)).trans within) other

end Unimodal

end Unimodal

end Sando.Search
