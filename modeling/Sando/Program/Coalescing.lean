/-
Coalesced fetches.

A desk takes requests for keys. It answers a request at once when it knows the value; otherwise it
starts a fetch of the key, unless one is under way, and lets the requester wait. When the fetch is
done, everyone waiting is answered. `Settled` is what holds in every state: there is one fetch for
each key somebody waits for, and every request received is queued, waiting or answered, each exactly
once. `Settled.step` is its induction step.
-/

import Mathlib.Data.List.Count
import Mathlib.Data.List.Perm.Basic
import Mathlib.Data.Prod.Basic

namespace Sando.Program

open scoped List

variable {α κ ρ : Type}

/-! ### Removal by swapping -/

/-- Take an item out of a list; the last item takes its place. -/
def swapRemove (items : List α) (n : ℕ) : Option (α × List α) :=
  match items[n]?, items.getLast? with
  | some item, some last => some (item, (items.set n last).dropLast)
  | _, _ => none

theorem swapRemove_isSome {items : List α} {n : ℕ} (inside : n < items.length) :
    ∃ item rest, swapRemove items n = some (item, rest) := by
  have nonempty : items ≠ [] := List.ne_nil_of_length_pos (Nat.zero_lt_of_lt inside)
  rw [swapRemove, List.getElem?_eq_getElem inside, List.getLast?_eq_some_getLast nonempty]
  exact ⟨_, _, rfl⟩

theorem swapRemove_item {items rest : List α} {n : ℕ} {item : α}
    (removed : swapRemove items n = some (item, rest)) : items[n]? = some item := by
  unfold swapRemove at removed
  split at removed
  · next here final =>
    obtain ⟨rfl, -⟩ := Prod.mk.inj (Option.some.inj removed)
    exact here
  · exact absurd removed (by simp)

/-- The item and what is left are the items, in another order. -/
theorem swapRemove_perm {items rest : List α} {n : ℕ} {item : α}
    (removed : swapRemove items n = some (item, rest)) : (item :: rest).Perm items := by
  unfold swapRemove at removed
  split at removed
  · next found last here final =>
    obtain ⟨rfl, rfl⟩ := Prod.mk.inj (Option.some.inj removed)
    obtain ⟨front, rfl⟩ := List.getLast?_eq_some_iff.mp final
    obtain ⟨inside, rfl⟩ := List.getElem?_eq_some_iff.mp here
    rw [List.length_append, List.length_singleton] at inside
    rcases Nat.lt_succ_iff_lt_or_eq.mp inside with earlier | rfl
    · rw [List.set_append_left _ _ earlier, List.dropLast_concat, List.getElem_append_left earlier]
      have swapped : (front.set n last).Perm (last :: front.eraseIdx n) :=
        List.set_perm_cons_eraseIdx earlier last
      have restored : (front[n] :: front.eraseIdx n).Perm front :=
        List.getElem_cons_eraseIdx_perm earlier
      calc front[n] :: front.set n last
        _ ~ front[n] :: last :: front.eraseIdx n := swapped.cons _
        _ ~ last :: front[n] :: front.eraseIdx n := List.Perm.swap ..
        _ ~ last :: front := restored.cons _
        _ ~ front ++ [last] := (List.perm_append_singleton last front).symm
    · rw [List.set_append_right _ _ (Nat.le_refl _), List.getElem_append_right (Nat.le_refl _)]
      simpa using (List.perm_append_singleton last front).symm
  · exact absurd removed (by simp)

/-! ### The desk -/

/-- Requests of requesters for keys: who waits for a key, the keys being fetched, the requests not
looked at yet, and all the requests received and answered so far. -/
@[ext] structure Desk (κ ρ : Type) where
  waiting : κ → Option (List ρ)
  pending : List κ
  queued : List (κ × ρ)
  received : List (κ × ρ)
  answered : List (κ × ρ)

namespace Desk

def empty : Desk κ ρ := ⟨fun _ => none, [], [], [], []⟩

variable [DecidableEq κ]

/-- Wait for a key, and start a fetch when nobody waits for it yet. -/
def ask (desk : Desk κ ρ) (key : κ) (requester : ρ) : Desk κ ρ :=
  match desk.waiting key with
  | some requesters =>
    { desk with waiting := Function.update desk.waiting key (some (requesters ++ [requester])) }
  | none =>
    { desk with
      waiting := Function.update desk.waiting key (some [requester])
      pending := desk.pending ++ [key] }

/-- Everyone waiting for a key is answered. -/
def finish (desk : Desk κ ρ) (key : κ) (pending : List κ) : Desk κ ρ :=
  { desk with
    waiting := Function.update desk.waiting key none
    pending
    answered := desk.answered ++ ((desk.waiting key).getD []).map (key, ·) }

/-- What a desk can do. -/
inductive Step (desk : Desk κ ρ) : Desk κ ρ → Prop
  | receive (request : κ × ρ) : Step desk
      { desk with queued := desk.queued ++ [request], received := desk.received ++ [request] }
  | answer {request : κ × ρ} {rest : List (κ × ρ)} (front : desk.queued = request :: rest) :
      Step desk { desk with queued := rest, answered := desk.answered ++ [request] }
  | ask {key : κ} {requester : ρ} {rest : List (κ × ρ)}
      (front : desk.queued = (key, requester) :: rest) :
      Step desk ({ desk with queued := rest }.ask key requester)
  | reorder {pending : List κ} (same : pending.Perm desk.pending) : Step desk { desk with pending }
  | finish {key : κ} {pending : List κ} (done : (key :: pending).Perm desk.pending) :
      Step desk (desk.finish key pending)

section Asking

variable (desk : Desk κ ρ) (key : κ) (requester : ρ)

/-- Whoever asks for a key joins those waiting for it. -/
@[simp] theorem waiting_ask :
    (desk.ask key requester).waiting
      = Function.update desk.waiting key (some ((desk.waiting key).getD [] ++ [requester])) := by
  unfold ask
  cases desk.waiting key <;> rfl

/-- The first one to ask for a key starts a fetch. -/
theorem pending_ask :
    (desk.ask key requester).pending
      = if desk.waiting key = none then desk.pending ++ [key] else desk.pending := by
  unfold ask
  cases desk.waiting key <;> rfl

@[simp] theorem queued_ask :
    (desk.ask key requester).queued = desk.queued := by
  unfold ask
  cases desk.waiting key <;> rfl

@[simp] theorem received_ask :
    (desk.ask key requester).received = desk.received := by
  unfold ask
  cases desk.waiting key <;> rfl

@[simp] theorem answered_ask :
    (desk.ask key requester).answered = desk.answered := by
  unfold ask
  cases desk.waiting key <;> rfl

end Asking

variable [DecidableEq ρ]

/-- How often a requester waits for a key. -/
def waits (desk : Desk κ ρ) (key : κ) (requester : ρ) : ℕ :=
  ((desk.waiting key).getD []).count requester

/-- One fetch for each key somebody waits for, and each request is in one place. -/
structure Settled (desk : Desk κ ρ) : Prop where
  once : desk.pending.Nodup
  fetching : ∀ key, key ∈ desk.pending ↔ desk.waiting key ≠ none
  listening : ∀ key, desk.waiting key ≠ some []
  accounted : ∀ key requester, desk.received.count (key, requester)
    = desk.queued.count (key, requester) + desk.waits key requester
      + desk.answered.count (key, requester)

theorem settled_empty : Settled (empty : Desk κ ρ) where
  once := List.nodup_nil
  fetching _ := by simp [empty]
  listening _ := by simp [empty]
  accounted _ _ := by simp [empty, waits]

section Steps

variable {desk after : Desk κ ρ} {key : κ} {requester : ρ} {rest : List (κ × ρ)}

/-- A key is fetched exactly once when somebody waits for it. -/
theorem Settled.count_eq_one_iff (settled : Settled desk) (key : κ) :
    desk.pending.count key = 1 ↔ ∃ first others, desk.waiting key = some (first :: others) := by
  have fetching := settled.fetching key
  have listening := settled.listening key
  rw [settled.once.count]
  rcases waiting : desk.waiting key with _ | _ | ⟨first, others⟩
  · simp [fetching, waiting]
  · exact absurd waiting listening
  · simp [fetching, waiting]

/-- Asking adds one that waits. -/
theorem waits_ask (desk : Desk κ ρ) (key other : κ) (requester another : ρ) :
    (desk.ask key requester).waits other another
      = desk.waits other another + [(key, requester)].count (other, another) := by
  unfold waits
  rw [waiting_ask]
  by_cases same : other = key
  · subst same
    simp [List.count_singleton]
  · rw [Function.update_of_ne same]
    simp [Ne.symm same]

theorem Settled.ask (settled : Settled desk) (front : desk.queued = (key, requester) :: rest) :
    Settled ({ desk with queued := rest }.ask key requester) where
  once := by
    rw [pending_ask]
    split
    · next nobody =>
      have absent : key ∉ desk.pending := fun mem => (settled.fetching key).mp mem nobody
      exact List.nodup_append.mpr ⟨settled.once, List.pairwise_singleton _ key, by
        rintro other mem _ single rfl
        exact absent (List.mem_singleton.mp single ▸ mem)⟩
    · exact settled.once
  fetching other := by
    have fetching := settled.fetching other
    rw [pending_ask, waiting_ask]
    by_cases same : other = key
    · subst same
      by_cases nobody : desk.waiting other = none
      · simp [nobody]
      · simp [nobody, fetching]
    · rw [Function.update_of_ne same]
      split <;> simp [fetching, same]
  listening other := by
    rw [waiting_ask]
    by_cases same : other = key
    · subst same
      simp
    · rw [Function.update_of_ne same]
      exact settled.listening other
  accounted other another := by
    have accounted := settled.accounted other another
    rw [front, ← List.singleton_append, List.count_append] at accounted
    rw [waits_ask, received_ask, queued_ask, answered_ask]
    simp only [waits] at accounted ⊢
    omega

theorem Settled.reorder {pending : List κ} (settled : Settled desk)
    (same : pending.Perm desk.pending) : Settled { desk with pending } where
  once := same.nodup_iff.mpr settled.once
  fetching key := same.mem_iff.trans (settled.fetching key)
  listening := settled.listening
  accounted := settled.accounted

theorem Settled.finish {pending : List κ} (settled : Settled desk)
    (done : (key :: pending).Perm desk.pending) : Settled (desk.finish key pending) where
  once := (List.nodup_cons.mp (done.nodup_iff.mpr settled.once)).2
  fetching other := by
    obtain ⟨absent, -⟩ := List.nodup_cons.mp (done.nodup_iff.mpr settled.once)
    have fetching := done.mem_iff.trans (settled.fetching other)
    rw [Desk.finish]
    by_cases same : other = key
    · subst same
      simp [absent]
    · simp only [Function.update_of_ne same]
      simpa [same] using fetching
  listening other := by
    rw [Desk.finish]
    by_cases same : other = key
    · subst same
      simp
    · simp only [Function.update_of_ne same]
      exact settled.listening other
  accounted other another := by
    have accounted := settled.accounted other another
    simp only [Desk.finish, accounted, waits, List.count_append]
    by_cases same : other = key
    · subst same
      rw [Function.update_self, List.count_map_of_injective _ _ (Prod.mk_right_injective other)]
      simp only [Option.getD_none, List.count_nil]
      omega
    · have others : (other, another) ∉ ((desk.waiting key).getD []).map (key, ·) := by
        simp [Ne.symm same]
      rw [Function.update_of_ne same, List.count_eq_zero_of_not_mem others]
      omega

/-- Every step keeps a desk settled. -/
theorem Settled.step (settled : Settled desk) (step : Step desk after) : Settled after := by
  cases step with
  | receive request => 
    exact ⟨settled.once, settled.fetching, settled.listening, fun key requester => by
      have := settled.accounted key requester
      simp only [List.count_append, waits] at this ⊢
      omega⟩
  | answer front =>
    refine ⟨settled.once, settled.fetching, settled.listening, fun key requester => ?_⟩
    have accounted := settled.accounted key requester
    rw [front, List.count_cons] at accounted
    simp only [List.count_append, List.count_singleton, waits] at accounted ⊢
    omega
  | ask front => exact settled.ask front
  | reorder same => exact settled.reorder same
  | finish done => exact settled.finish done

end Steps

end Desk

end Sando.Program
