/-
The search on a revenue with a single peak.

On a wide interval the points are distinct and the peak lies strictly between the neighbours of the best
one; on an interval shorter than fifteen every amount is a point, so that the best point is the peak.
Either way the peak stays within the bounds or has just been found (`Located`), and the revenue at the
best point is never zero.
-/

import Mathlib.Algebra.Order.Group.Unbundled.Abs
import Mathlib.Algebra.Order.Group.Int
import Sando.Simulate.QuadraticSearch

namespace Sando.Simulate

open Sando.Search

section Peak

variable {revenue : ℕ → ℕ} {peak limit : ℕ} {search : Search}

/-- The peak lies within the bounds, as does the best amount, or it is the best amount. -/
def Located (peak : ℕ) (search : Search) : Prop :=
  (search.lowerBound ≤ peak ∧ peak ≤ search.upperBound
      ∧ search.lowerBound ≤ search.highestSandoInput ∧ search.highestSandoInput ≤ search.upperBound)
    ∨ search.upperBound < search.lowerBound ∧ search.highestSandoInput = peak

/-- The bounds of a round contain the peak. -/
def Contains (peak : ℕ) (round : Evaluated) : Prop :=
  round.lowerBound ≤ peak ∧ peak ≤ round.upperBound

variable (unimodal : Unimodal revenue 0 peak limit)

include unimodal

/-- There is revenue at the peak. -/
theorem revenue_peak_ne_zero (positive : 0 < limit) : revenue peak ≠ 0 := by
  rcases Nat.eq_zero_or_pos peak with zero | after
  · exact Nat.ne_zero_of_lt (unimodal.lt_of_peak_le le_rfl (zero ▸ positive) le_rfl)
  · exact Nat.ne_zero_of_lt (unimodal.lt_of_le_peak le_rfl after le_rfl)

variable (above : search.lowerBound ≤ peak) (below : peak ≤ search.upperBound)
  (within : search.upperBound ≤ limit)

include above below within

/-- Points of a narrow interval: the best one is the peak. -/
theorem best_eq_peak (narrow : search.upperBound - search.lowerBound ≤ 15) :
    bound search (best revenue search) = peak :=
  unimodal.lastMax_dense (by decide) narrow (Nat.zero_le _) within above below

/-- The best point has revenue. -/
theorem revenue_best_ne_zero (positive : 0 < limit) :
    revenue (bound search (best revenue search)) ≠ 0 := by
  by_cases narrow : search.upperBound - search.lowerBound ≤ 15
  · rw [best_eq_peak unimodal above below within narrow]
    exact revenue_peak_ne_zero unimodal positive
  intro zero
  have none : ∀ index ≤ 15, revenue (bound search index) = 0 := fun index inside =>
    Nat.le_zero.mp ((le_best inside).trans zero.le)
  have wide : 15 ≤ search.upperBound - search.lowerBound := by omega
  have inside := bound_le_upper (above.trans below) (show 2 ≤ 15 by decide)
  refine unimodal.not_constant (Nat.zero_le _) (point_lt_succ (by decide) wide 0)
    (point_lt_succ (by decide) wide 1) (inside.trans within) ?_ ?_
  · exact (none 0 (by decide)).trans (none 1 (by decide)).symm
  · exact (none 1 (by decide)).trans (none 2 (by decide)).symm

/-- Distinct points: the peak lies between the neighbours of the best one, which is between them too. -/
theorem located_wide (wide : 15 ≤ search.upperBound - search.lowerBound) :
    lowerAfter revenue search ≤ peak ∧ peak ≤ upperAfter revenue search
      ∧ lowerAfter revenue search ≤ bound search (best revenue search)
      ∧ bound search (best revenue search) ≤ upperAfter revenue search := by
  have ordered := above.trans below
  have last : best revenue search ≤ 15 := best_le
  have inside : bound search (best revenue search) ≤ search.upperBound :=
    bound_le_upper ordered last
  have left : lowerAfter revenue search ≤ peak
      ∧ lowerAfter revenue search ≤ bound search (best revenue search) := by
    unfold lowerAfter
    by_cases first : best revenue search = 0
    · rw [if_pos first]
      exact ⟨above, lower_le_point _⟩
    rw [if_neg first]
    have step : bound search (best revenue search - 1) < bound search (best revenue search - 1 + 1) :=
      point_lt_succ (by decide) wide _
    rw [Nat.sub_add_cancel (Nat.one_le_iff_ne_zero.mpr first)] at step
    exact ⟨unimodal.previous_lt (inside.trans within) step (le_best (by omega)), step⟩
  have right : peak ≤ upperAfter revenue search
      ∧ bound search (best revenue search) ≤ upperAfter revenue search := by
    unfold upperAfter
    by_cases final : best revenue search = 15
    · rw [if_pos final]
      exact ⟨below, inside⟩
    rw [if_neg final]
    have inner : best revenue search < 15 := lt_of_le_of_ne last final
    have step := best_lt_next inner
    have before := unimodal.lt_next (Nat.zero_le _) step (next_lt_best inner)
    exact ⟨Nat.le_sub_one_of_lt before, Nat.le_sub_one_of_lt step⟩
  exact ⟨left.1, right.1, left.2, right.2⟩

/-- Points without gaps: the bounds close in on the peak or pass each other. -/
theorem located_narrow (narrow : search.upperBound - search.lowerBound ≤ 15) :
    upperAfter revenue search = peak
      ∧ (lowerAfter revenue search = peak ∨ lowerAfter revenue search = peak + 1) := by
  have ordered := above.trans below
  have found := best_eq_peak unimodal above below within narrow
  have last : best revenue search ≤ 15 := best_le
  constructor
  · unfold upperAfter
    by_cases final : best revenue search = 15
    · rw [if_pos final, ← found, final]
      exact (point_last (by decide) ordered).symm
    · rw [if_neg final]
      have step := best_lt_next (lt_of_le_of_ne last final)
      have dense : bound search (best revenue search + 1) ≤ bound search (best revenue search) + 1 :=
        point_succ_le (by decide) narrow _
      omega
  · unfold lowerAfter
    by_cases first : best revenue search = 0
    · rw [if_pos first, ← found, first]
      exact .inl point_zero.symm
    · rw [if_neg first]
      have dense : bound search (best revenue search - 1 + 1)
          ≤ bound search (best revenue search - 1) + 1 := point_succ_le (by decide) narrow _
      have earlier : bound search (best revenue search - 1) ≤ bound search (best revenue search) :=
        point_mono (Nat.sub_le _ _)
      rw [Nat.sub_add_cancel (Nat.one_le_iff_ne_zero.mpr first)] at dense
      omega

theorem located_advance :
    Located peak (advance revenue search (lowerAfter revenue search) (upperAfter revenue search)) := by
  by_cases narrow : search.upperBound - search.lowerBound ≤ 15
  · have found := best_eq_peak unimodal above below within narrow
    obtain ⟨upper, lower | lower⟩ := located_narrow unimodal above below within narrow
    · exact .inl ⟨lower.le, upper.ge, (lower.trans found.symm).le, (found.trans upper.symm).le⟩
    · exact .inr ⟨show upperAfter revenue search < lowerAfter revenue search by omega, found⟩
  · exact .inl (located_wide unimodal above below within (by omega))

end Peak

/-- What the rounds keep on a revenue with a single peak. -/
structure Closing (revenue : ℕ → ℕ) (peak limit : ℕ) (search : Search) : Prop where
  within : search.upperBound ≤ limit
  contains : ∀ round ∈ search.rounds, Contains peak round
  located : Located peak search
  evaluated : search.rounds = [] → search.lowerBound = 0 ∧ search.upperBound = limit
  last : ∀ round ∈ search.rounds.getLast?, search.highestSandoInput ∈ round.intervals

/-- The bounds of every round contain the peak, and what the last one finds is the peak, up to the
tolerance. -/
structure Converged (peak tolerance input : ℕ) (rounds : List Evaluated) : Prop where
  contains : ∀ round ∈ rounds, Contains peak round
  last : ∃ round ∈ rounds.getLast?, input ∈ round.intervals
  near : 0 < tolerance → |(input : ℤ) - peak| < tolerance
  exact : tolerance = 0 → input = peak

section Search

variable {revenue : ℕ → ℕ} {peak limit tolerance : ℕ} {search next : Search}

/-- The round that a state records. -/
theorem mem_evaluate {round : Evaluated} : round ∈ evaluate search ↔ round ∈ search.rounds
    ∨ round = ⟨search.lowerBound, search.upperBound,
        (List.range (numberOfIntervals + 1)).map (bound search)⟩ := by
  unfold evaluate
  rw [List.mem_append, List.mem_singleton]

theorem closing_goOn (unimodal : Unimodal revenue 0 peak limit) (positive : 0 < limit)
    (closing : Closing revenue peak limit search)
    (ends : RoundEnds revenue tolerance search (.goOn next)) : Closing revenue peak limit next := by
  have inside : ∀ {search : Search}, search.lowerBound ≤ search.upperBound → Located peak search →
      search.lowerBound ≤ peak ∧ peak ≤ search.upperBound := fun ordered located => by
    rcases located with ⟨above, below, _⟩ | ⟨crossed, _⟩
    · exact ⟨above, below⟩
    · omega
  cases ends with
  | shrink ordered zero =>
    obtain ⟨above, below⟩ := inside ordered closing.located
    exact absurd zero (revenue_best_ne_zero unimodal above below closing.within positive)
  | narrow ordered =>
    obtain ⟨above, below⟩ := inside ordered closing.located
    refine ⟨(upperAfter_le ordered).trans closing.within, fun round there => ?_,
      located_advance unimodal above below closing.within, fun none => ?_, fun round isLast => ?_⟩
    · rcases mem_evaluate.mp there with earlier | rfl
      · exact closing.contains round earlier
      · exact ⟨above, below⟩
    · exact absurd none (List.concat_ne_nil _ _)
    · rw [show (advance revenue search _ _).rounds = evaluate search from rfl, evaluate,
        List.getLast?_concat, Option.mem_some_iff] at isLast
      subst isLast
      exact List.mem_map_of_mem (List.mem_range.mpr (Nat.lt_succ_of_le best_le))

theorem closing_finished (unimodal : Unimodal revenue 0 peak limit) (positive : 0 < limit)
    (small : tolerance ≤ limit) (closing : Closing revenue peak limit search) {input : ℕ}
    {rounds : List Evaluated} (ends : RoundEnds revenue tolerance search (.finished input rounds)) :
    Converged peak tolerance input rounds := by
  cases ends with
  | exit ordered zero =>
    rcases closing.located with ⟨above, below, _⟩ | ⟨crossed, _⟩
    · exact absurd zero (revenue_best_ne_zero unimodal above below closing.within positive)
    · omega
  | stop stops =>
    refine ⟨closing.contains, ?_, fun some => ?_, fun none => ?_⟩
    · cases last : search.rounds.getLast? with
      | none =>
        obtain ⟨lower, upper⟩ := closing.evaluated (List.getLast?_eq_none_iff.mp last)
        omega
      | some round => exact ⟨round, rfl, closing.last round last⟩
    · rw [abs_lt]
      rcases closing.located with inside | crossed <;> omega
    · rcases closing.located with inside | crossed <;> omega

/-- On a revenue that rises up to a peak and falls from there, the search keeps the peak within its
bounds and returns it, up to the tolerance. -/
theorem search_converges (unimodal : Unimodal revenue 0 peak limit) (positive : 0 < limit)
    (small : limit < 2 ^ 252) : ∃ input rounds, (∀ fuel, 264 ≤ fuel →
        juicedQuadraticSearch revenue 0 limit fuel = some (input, rounds))
      ∧ Converged peak (limit / 2 / 1000000) input rounds := by
  refine search_rule (Closing revenue peak limit) (by decide) small ?_ ?_ ?_
  · exact ⟨le_rfl, fun _ impossible => (nomatch impossible),
      .inl ⟨Nat.zero_le _, unimodal.le_last, le_rfl, Nat.zero_le _⟩, fun _ => ⟨rfl, rfl⟩,
      fun _ impossible => (nomatch impossible)⟩
  · exact fun search input rounds closing ends =>
      closing_finished unimodal positive (by omega) closing ends
  · exact fun search next closing ends => closing_goOn unimodal positive closing ends

theorem unimodal_tent : Unimodal (fun amount => 100 - amount + min (2 * amount) 60) 0 30 100 where
  first_le := by decide
  le_last := by decide
  increasing := fun x hx y hy lt => by
    simp only [Set.mem_Icc] at hx hy
    simp only
    omega
  decreasing := fun x hx y hy lt => by
    simp only [Set.mem_Icc] at hx hy
    simp only
    omega

theorem search_converges_tent : ∃ input rounds, (∀ fuel, 264 ≤ fuel →
        juicedQuadraticSearch (fun amount => 100 - amount + min (2 * amount) 60) 0 100 fuel
          = some (input, rounds))
      ∧ Converged 30 (100 / 2 / 1000000) input rounds :=
  search_converges unimodal_tent (by decide) (by decide)

end Search

end Sando.Simulate
