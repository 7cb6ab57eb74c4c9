/-
Merging maps.

A list of maps is merged by inserting one entry after another, so that of several maps with a key either
the first one wins (`mergeFirst`) or the last one (`mergeLast`). `holders maps key` are the values that
the maps have for the key, in the order of the list; the one merge keeps the first of them and the other
one the last (`getElem?_mergeFirst`, `getElem?_mergeLast`).
-/

import Mathlib.Tactic.Linarith

namespace Sando.Maps

open Std

/-! ### Loops over entries -/

section Entries

variable {κ ν : Type} [DecidableEq κ]

/-- The first value of a key in a list of entries. -/
def entryOf (entries : List (κ × ν)) (key : κ) : Option ν :=
  entries.findSome? fun entry => if entry.1 = key then some entry.2 else none

/-- In a list with one value for the key at most it does not matter which entry comes first. -/
theorem entryOf_eq {entries : List (κ × ν)} {key : κ} {found : Option ν}
    (entry : ∀ value, (key, value) ∈ entries ↔ found = some value) : entryOf entries key = found := by
  cases result : entryOf entries key with
  | none =>
    rw [entryOf, List.findSome?_eq_none_iff] at result
    cases found with
    | none => rfl
    | some value =>
      have missed := result _ ((entry value).mpr rfl)
      simp at missed
  | some value =>
    obtain ⟨⟨other, held⟩, there, same⟩ := List.exists_of_findSome?_eq_some result
    by_cases equal : other = key
    · subst equal
      rw [if_pos rfl, Option.some.injEq] at same
      subst same
      exact ((entry held).mp there).symm
    · rw [if_neg equal] at same
      exact absurd same (Option.some_ne_none value).symm

end Entries

/-! ### Merges -/

section Merge

variable {κ ν : Type} [Ord κ]

/-- The values of a key, in the order of the maps. -/
def holders (maps : List (TreeMap κ ν)) (key : κ) : List ν := maps.filterMap fun map => map[key]?

/-- Insert the entries of a map, except where there is one already. -/
def insertNew (merged map : TreeMap κ ν) : TreeMap κ ν :=
  map.foldl (fun merged key value => merged.insertIfNew key value) merged

/-- Insert the entries of a map. -/
def insertAll (merged map : TreeMap κ ν) : TreeMap κ ν :=
  map.foldl (fun merged key value => merged.insert key value) merged

def mergeFirst (maps : List (TreeMap κ ν)) : TreeMap κ ν := maps.foldl insertNew ∅

def mergeLast (maps : List (TreeMap κ ν)) : TreeMap κ ν := maps.foldl insertAll ∅

variable {key : κ}

theorem holders_cons (map : TreeMap κ ν) (rest : List (TreeMap κ ν)) :
    holders (map :: rest) key = map[key]?.toList ++ holders rest key := by
  rw [holders, List.filterMap_cons]
  cases map[key]? <;> rfl

variable [TransOrd κ] [LawfulEqOrd κ] [DecidableEq κ]

theorem getElem?_foldl_insert (entries : List (κ × ν)) (merged : TreeMap κ ν) :
    (entries.foldl (fun merged entry => merged.insert entry.1 entry.2) merged)[key]?
      = (entryOf entries.reverse key).or merged[key]? := by
  induction entries generalizing merged with
  | nil => rfl
  | cons entry rest ih =>
    rw [List.foldl_cons, ih, List.reverse_cons, entryOf, entryOf, List.findSome?_append, Option.or_assoc,
      TreeMap.getElem?_insert]
    congr 1
    by_cases same : entry.1 = key
    · simp [same]
    · simp [same]

theorem getElem?_foldl_insertIfNew (entries : List (κ × ν)) (merged : TreeMap κ ν) :
    (entries.foldl (fun merged entry => merged.insertIfNew entry.1 entry.2) merged)[key]?
      = merged[key]?.or (entryOf entries key) := by
  induction entries generalizing merged with
  | nil => exact (Option.or_none).symm
  | cons entry rest ih =>
    rw [List.foldl_cons, ih, TreeMap.getElem?_insertIfNew, entryOf, entryOf, List.findSome?_cons]
    by_cases same : entry.1 = key
    · subst same
      cases found : merged[entry.1]? with
      | none =>
        have fresh : entry.1 ∉ merged := by
          rw [TreeMap.mem_iff_isSome_getElem?, found]
          exact Bool.false_ne_true
        simp [fresh]
      | some value =>
        have held : entry.1 ∈ merged := by
          rw [TreeMap.mem_iff_isSome_getElem?, found]
          rfl
        simp [held]
    · simp [same]

theorem getElem?_insertNew (merged map : TreeMap κ ν) :
    (insertNew merged map)[key]? = merged[key]?.or map[key]? := by
  rw [insertNew, TreeMap.foldl_eq_foldl_toList, getElem?_foldl_insertIfNew,
    entryOf_eq fun _ => TreeMap.mem_toList_iff_getElem?_eq_some]

theorem getElem?_insertAll (merged map : TreeMap κ ν) :
    (insertAll merged map)[key]? = map[key]?.or merged[key]? := by
  rw [insertAll, TreeMap.foldl_eq_foldl_toList, getElem?_foldl_insert,
    entryOf_eq fun _ => List.mem_reverse.trans TreeMap.mem_toList_iff_getElem?_eq_some]

/-- The first map with a key wins. -/
theorem getElem?_mergeFirst (maps : List (TreeMap κ ν)) :
    (mergeFirst maps)[key]? = (holders maps key).head? := by
  have merged : ∀ start : TreeMap κ ν,
      (maps.foldl insertNew start)[key]? = start[key]?.or (holders maps key).head? := by
    induction maps with
    | nil => exact fun start => (Option.or_none).symm
    | cons map rest ih =>
      intro start
      rw [List.foldl_cons, ih, getElem?_insertNew, Option.or_assoc, holders_cons, List.head?_append,
        Option.head?_toList]
  rw [mergeFirst, merged, TreeMap.getElem?_emptyc, Option.none_or]

/-- The last map with a key wins. -/
theorem getElem?_mergeLast (maps : List (TreeMap κ ν)) :
    (mergeLast maps)[key]? = (holders maps key).getLast? := by
  have merged : ∀ start : TreeMap κ ν,
      (maps.foldl insertAll start)[key]? = (holders maps key).getLast?.or start[key]? := by
    induction maps with
    | nil => exact fun start => rfl
    | cons map rest ih =>
      intro start
      rw [List.foldl_cons, ih, getElem?_insertAll, ← Option.or_assoc, holders_cons,
        List.getLast?_append]
      cases map[key]? <;> rfl
  rw [mergeLast, merged, TreeMap.getElem?_emptyc, Option.or_none]

end Merge

end Sando.Maps
