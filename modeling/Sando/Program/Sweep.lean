/-
Sweeping a list from the last item to the first.

A sweep takes each item out, the last one taking its place, and puts it back at the end when it is not
ready. The items below the index are not moved by this (`swapRemove_take`), so that the item found at
an index is the one that stood there at first: every item is polled exactly once, in reverse order, and
those that are left are the ones that were not ready (`sweep_spec`).
-/

import Sando.Program.Coalescing

namespace Sando.Program

open scoped List

variable {α : Type}

/-- An item that was polled, and whether it was ready. -/
abbrev Polled (α : Type) := α × Bool

/-- The items that were not ready. -/
def unready (polls : List (Polled α)) : List α := (polls.filter fun poll => !poll.2).map Prod.fst

/-- The polls of a sweep, when every item stands where it stood at first. -/
def pollsOf (ready : ℕ → α → Bool) (items : List α) : List (Polled α) :=
  (items.mapIdx fun n item => (item, ready n item)).reverse

/-- Poll the items below an index, from the last to the first. -/
def sweep (ready : ℕ → α → Bool) : ℕ → List α → Option (List α × List (Polled α))
  | 0, items => some (items, [])
  | n + 1, items =>
    (swapRemove items n).bind fun (item, rest) =>
      (sweep ready n (if ready n item then rest else rest ++ [item])).map fun (left, polls) =>
        (left, (item, ready n item) :: polls)

section Removal

variable {items rest : List α} {item : α} {n : ℕ}

/-- Removing an item leaves the items in front of it in place. -/
theorem swapRemove_take (removed : swapRemove items n = some (item, rest)) :
    rest.take n = items.take n := by
  unfold swapRemove at removed
  split at removed
  · next found last here final =>
    obtain ⟨-, rfl⟩ := Prod.mk.inj (Option.some.inj removed)
    obtain ⟨inside, -⟩ := List.getElem?_eq_some_iff.mp here
    rw [List.dropLast_eq_take, List.take_take, List.length_set,
      Nat.min_eq_left (Nat.le_sub_one_of_lt inside), List.take_set_of_le (Nat.le_refl n)]
  · exact absurd removed (by simp)

/-- What is left are the items in front of it and, in another order, the items behind it. -/
theorem swapRemove_drop (removed : swapRemove items n = some (item, rest)) :
    (rest.drop n).Perm (items.drop (n + 1)) := by
  have inside := (List.getElem?_eq_some_iff.mp (swapRemove_item removed)).1
  have same := swapRemove_perm removed
  rw [← List.take_append_drop n rest, swapRemove_take removed] at same
  have split : items = items.take n ++ item :: items.drop (n + 1) := by
    conv_lhs => rw [← List.take_append_drop n items, List.drop_eq_getElem_cons inside]
    rw [(List.getElem?_eq_some_iff.mp (swapRemove_item removed)).2]
  have gathered : (items.take n ++ item :: rest.drop n).Perm (items.take n ++ item :: items.drop (n + 1)) := by
    rw [← split]
    exact List.perm_middle.trans same
  exact ((List.perm_append_left_iff _).mp gathered).cons_inv

end Removal

section Sweeping

variable {ready : ℕ → α → Bool}

theorem unready_cons (item : α) (isReady : Bool) (polls : List (Polled α)) :
    unready ((item, isReady) :: polls) = (if isReady then [] else [item]) ++ unready polls := by
  cases isReady <;> rfl

theorem pollsOf_items (items : List α) : (pollsOf ready items).map Prod.fst = items.reverse := by
  have items_eq : (items.mapIdx fun n item => (item, ready n item)).map Prod.fst = items := by
    apply List.ext_getElem <;> simp
  rw [pollsOf, List.map_reverse, items_eq]

/-- The item at the highest index is polled first. -/
theorem pollsOf_append (items : List α) (item : α) :
    pollsOf ready (items ++ [item]) = (item, ready items.length item) :: pollsOf ready items := by
  simp [pollsOf, List.mapIdx_append]

/-- Every item below the index is polled exactly once, and of these the ones that are not ready are
left. -/
theorem sweep_spec (ready : ℕ → α → Bool) : ∀ (n : ℕ) (items : List α), n ≤ items.length →
    ∃ left, sweep ready n items = some (left, pollsOf ready (items.take n))
      ∧ left.Perm (items.drop n ++ unready (pollsOf ready (items.take n))) := by
  intro n
  induction n with
  | zero => exact fun items _ => ⟨items, rfl, by simp [pollsOf, unready]⟩
  | succ n ih =>
    intro items inside
    obtain ⟨item, rest, removed⟩ := swapRemove_isSome (show n < items.length from inside)
    have here := swapRemove_item removed
    have short : n ≤ rest.length := by
      have length := (swapRemove_perm removed).length_eq
      rw [List.length_cons] at length
      omega
    have first : items.take (n + 1) = items.take n ++ [item] := by
      rw [List.take_add_one, here, Option.toList_some]
    have width : (items.take n).length = n := by simp; omega
    -- the item goes behind the others or away, and those below the index stay where they are
    obtain ⟨left, swept, same⟩ := ih (rest ++ if ready n item then [] else [item]) (by simp; omega)
    rw [List.take_append_of_le_length short, swapRemove_take removed] at swept same
    refine ⟨left, ?_, ?_⟩
    · rw [sweep, removed, Option.bind_some, first, pollsOf_append, width]
      have pushed : (if ready n item then rest else rest ++ [item])
          = rest ++ if ready n item then [] else [item] := by
        by_cases isReady : ready n item = true
        · rw [if_pos isReady, if_pos isReady, List.append_nil]
        · rw [if_neg isReady, if_neg isReady]
      show (sweep ready n (if ready n item then rest else rest ++ [item])).map _ = _
      rw [pushed, swept]
      rfl
    · rw [first, pollsOf_append, width, unready_cons]
      rw [List.drop_append_of_le_length short, List.append_assoc] at same
      exact same.trans ((swapRemove_drop removed).append_right _)

/-- A sweep over all items. -/
theorem sweep_all (ready : ℕ → α → Bool) (items : List α) :
    ∃ left, sweep ready items.length items = some (left, pollsOf ready items)
      ∧ left.Perm (unready (pollsOf ready items)) := by
  obtain ⟨left, swept, same⟩ := sweep_spec ready items.length items (Nat.le_refl _)
  rw [List.take_length] at swept same
  rw [List.drop_length, List.nil_append] at same
  exact ⟨left, swept, same⟩

end Sweeping

end Sando.Program
