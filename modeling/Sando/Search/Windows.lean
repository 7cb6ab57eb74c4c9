/-
Reading a log in windows.

`between` are the items whose key lies in a range that includes both ends. Windows of a step that include
both ends meet in a key: read one after the other they give every item of the whole range once, and those
at the `seams` once more (`windows_perm`). So they give the whole range exactly if no item is at a seam
(`windows_exact_iff`).
-/

import Mathlib.Data.List.Perm.Basic
import Mathlib.Tactic.Common

namespace Sando.Search

open scoped List

section Windows

variable {α β : Type} (key : α → ℕ)

/-- The items with a key between two, both of them included. -/
def between (first last : ℕ) (items : List α) : List α :=
  items.filter fun item => first ≤ key item ∧ key item ≤ last

/-- The windows of a step, one after the other. -/
def windows (start step count : ℕ) (items : List α) : List α :=
  (List.range count).flatMap fun index =>
    between key (start + step * index) (start + step * index + step) items

/-- The items at the keys where two windows meet. -/
def seams (start step count : ℕ) (items : List α) : List α :=
  (List.range count).flatMap fun index =>
    between key (start + step * (index + 1)) (start + step * (index + 1)) items

variable {key} {first middle last start step count : ℕ} {items : List α}

theorem mem_between {item : α} :
    item ∈ between key first last items ↔ item ∈ items ∧ first ≤ key item ∧ key item ≤ last := by
  unfold between
  rw [List.mem_filter, decide_eq_true_eq]

/-- A range is two ranges. -/
theorem between_append_perm (lower : first ≤ middle + 1) (upper : middle ≤ last) :
    (between key first middle items ++ between key (middle + 1) last items).Perm
      (between key first last items) := by
  have left : between key first middle items
      = (between key first last items).filter fun item => key item ≤ middle := by
    unfold between
    rw [List.filter_filter]
    congr 1
    funext item
    rw [← Bool.decide_and]
    exact decide_eq_decide.mpr (by omega)
  have right : between key (middle + 1) last items
      = (between key first last items).filter fun item => !decide (key item ≤ middle) := by
    unfold between
    rw [List.filter_filter]
    congr 1
    funext item
    rw [← decide_not, ← Bool.decide_and]
    exact decide_eq_decide.mpr (by omega)
  rw [left, right]
  exact List.filter_append_perm _ _

/-- A window more gives the next items, and those where it meets the last one. -/
theorem windows_perm (key : α → ℕ) (start step count : ℕ) (items : List α) :
    (windows key start step (count + 1) items).Perm
      (between key start (start + step * (count + 1)) items ++ seams key start step count items) := by
  induction count with
  | zero => simp [windows, seams]
  | succ count hypothesis =>
      have next : start + step * (count + 1 + 1) = start + step * (count + 1) + step := by
        rw [Nat.mul_succ, Nat.add_assoc]
      rw [next]
      have read : windows key start step (count + 1 + 1) items
          = windows key start step (count + 1) items
            ++ between key (start + step * (count + 1)) (start + step * (count + 1) + step) items := by
        simp only [windows, List.range_succ, List.flatMap_append, List.flatMap_singleton]
      have met : seams key start step (count + 1) items
          = seams key start step count items
            ++ between key (start + step * (count + 1)) (start + step * (count + 1)) items := by
        simp only [seams, List.range_succ, List.flatMap_append, List.flatMap_singleton]
      rw [read, met]
      have wide := Nat.le_add_right start (step * (count + 1))
      generalize start + step * (count + 1) = seam at *
      have window : (between key seam seam items ++ between key (seam + 1) (seam + step) items).Perm
          (between key seam (seam + step) items) := between_append_perm (by omega) (by omega)
      have grown : (between key start seam items ++ between key (seam + 1) (seam + step) items).Perm
          (between key start (seam + step) items) := between_append_perm (by omega) (by omega)
      calc windows key start step (count + 1) items ++ between key seam (seam + step) items
        _ ~ ((between key start seam items ++ seams key start step count items)
            ++ (between key seam seam items ++ between key (seam + 1) (seam + step) items)) :=
          hypothesis.append window.symm
        _ ~ ((between key start seam items ++ between key (seam + 1) (seam + step) items)
            ++ (seams key start step count items ++ between key seam seam items)) := by
          rw [List.append_assoc, List.append_assoc]
          refine List.Perm.append_left _ ?_
          rw [← List.append_assoc]
          exact List.perm_append_comm
        _ ~ (between key start (seam + step) items
            ++ (seams key start step count items ++ between key seam seam items)) :=
          grown.append_right _

theorem seams_eq_nil (read : α → Option β) :
    (seams key start step count items).filterMap read = [] ↔ ∀ item ∈ items, (read item).isSome →
      ∀ index < count, key item ≠ start + step * (index + 1) := by
  rw [List.filterMap_eq_nil_iff]
  constructor
  · intro none item member some index bound same
    have seam : item ∈ seams key start step count items :=
      List.mem_flatMap.mpr ⟨index, List.mem_range.mpr bound,
        mem_between.mpr ⟨member, Nat.le_of_eq same.symm, Nat.le_of_eq same⟩⟩
    rw [none item seam] at some
    cases some
  · intro apart item seam
    obtain ⟨index, bound, here⟩ := List.mem_flatMap.mp seam
    obtain ⟨member, lower, upper⟩ := mem_between.mp here
    by_contra some
    exact apart item member (Option.isSome_iff_ne_none.mpr some) index (List.mem_range.mp bound)
      (Nat.le_antisymm upper lower)

/-- What is read in windows is what is there, once, exactly if nothing is read at a seam. -/
theorem windows_exact_iff (read : α → Option β) :
    ((windows key start step (count + 1) items).filterMap read).Perm
        ((between key start (start + step * (count + 1)) items).filterMap read)
      ↔ ∀ item ∈ items, (read item).isSome → ∀ index < count, key item ≠ start + step * (index + 1) := by
  have twice := (windows_perm key start step count items).filterMap read
  rw [List.filterMap_append] at twice
  rw [← seams_eq_nil]
  constructor
  · intro once
    have lengths := (once.symm.trans twice).length_eq
    rw [List.length_append] at lengths
    exact List.length_eq_zero_iff.mp (by omega)
  · intro none
    rwa [none, List.append_nil] at twice

end Windows

end Sando.Search
