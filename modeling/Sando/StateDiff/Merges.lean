/-
Merging state diffs.

Before a simulation the state diffs of several transactions are merged into one map, and the values
that its slots had before are loaded into the database of the simulation (`toCacheDb`). The three merges
move whole accounts: `getFromTxs` keeps the first diff of an account, `combinedStateDiffs` of the sanity
check and `megaStateDiffs` keep the last one. No slot is lost exactly when the diffs that are kept list
all slots that any diff of the account lists (`merges_keep_iff`).
-/

import Sando.ForkedDb.GlobalBackend
import Sando.Runner.BundleSender
import Sando.StateDiff.ExtractPools

namespace Sando.StateDiff

open Std Sando.Evm Sando.TxBuilder Sando.Simulate Sando.Runner Sando.Maps Sando.ForkedDb

/-! ### The merges -/

/-- The trace of a transaction, which may have no state diff. -/
structure BlockTrace where
  stateDiff : Option StateDiffs

/-- The state diffs of some transactions, from the answer to a request for their traces. -/
def getFromTxs (answer : Option (List BlockTrace)) : Option StateDiffs := do
  let blockTraces ← answer
  let entries := (blockTraces.filterMap (·.stateDiff)).flatMap TreeMap.toList
  -- do nothing if the key already exists, we only care about the starting state
  some (entries.foldl (fun merged entry => merged.insertIfNew entry.1 entry.2) ∅)

/-- The diffs of a sanity check, from those of its ingredients. -/
def combinedStateDiffs (multiIngredients : List StateDiffs) : StateDiffs :=
  multiIngredients.foldl (fun combined stateDiffs =>
    stateDiffs.foldl (fun combined key value => combined.insert key value) combined) ∅

/-- A recipe, with the diffs it was made from. -/
structure PendingRecipe extends OptimalRecipe where
  stateDiffs : StateDiffs

/-- The recipes of a pool, sorted by revenue. -/
def sortRecipes (recipes : List PendingRecipe) : List PendingRecipe :=
  recipes.insertionSort fun first second => first.revenue ≤ second.revenue

/-- Insert the diffs of a recipe into those of its pool and into those of all pools. -/
def combineRecipe (maps : StateDiffs × StateDiffs) (recipe : PendingRecipe) : StateDiffs × StateDiffs :=
  recipe.stateDiffs.foldl (fun maps key value => (maps.1.insert key value, maps.2.insert key value)) maps

/-- The diffs of one pool, and those of all pools behind it. -/
def poolStateDiffs (recipes : List PendingRecipe) (multi : StateDiffs) : StateDiffs × StateDiffs :=
  (sortRecipes recipes).foldl combineRecipe (∅, multi)

/-- The diffs of each pool of a mega sandwich, and those of all pools. -/
def megaStateDiffs : PendingSandwiches PendingRecipe → StateDiffs → List StateDiffs × StateDiffs
  | [], multi => ([], multi)
  | (_, recipes) :: rest, multi =>
    let (combined, multi) := poolStateDiffs recipes multi
    let (others, multi) := megaStateDiffs rest multi
    (combined :: others, multi)

/-- The order in which a mega sandwich goes through the diffs. -/
def mergeOrder (pending : PendingSandwiches PendingRecipe) : List StateDiffs :=
  pending.flatMap fun (_, recipes) => (sortRecipes recipes).map (·.stateDiffs)

/-! ### The database -/

/-- The value before the transaction, where there was one and it is not left alone. -/
def Diff.preState {α : Type} : Diff α → Option α
  | .changed before _ => some before
  | .died value => some value
  -- for cases born and same no need to touch
  | _ => none

/-- Why there is no database. -/
inductive CacheFailure
  | providerError | panic

/-- Insert the slots of an account. -/
def insertSlots (address : Address) (accDiff : AccountDiff) (db : CacheDb) : CacheDb :=
  accDiff.storage.foldl (fun db slot storageDiff =>
    match storageDiff.preState with
    | some value => db.insertAccountStorage address slot value
    | none => db) db

/-- Insert the accounts, in the order in which they have been fetched. -/
def insertAccounts (keccak256 : List Byte → Word)
    (fetch : Address → Option (Word × Word × List Byte)) :
    List (Address × AccountDiff) → CacheDb → Except CacheFailure CacheDb
  | [], db => pure db
  | (address, accDiff) :: rest, db => do
    match fetch address with
    | none => throw .providerError
    | some (balance, nonce, code) =>
      match asU64 nonce with
      | none => throw .panic
      | some nonce =>
        let info : AccountInfo := ⟨balance, nonce, keccak256 code, some code⟩
        insertAccounts keccak256 fetch rest
          (insertSlots address accDiff (db.insertAccountInfo address info))

/-- A database with the values before the transactions. -/
def toCacheDb (keccak256 : List Byte → Word) (fetch : Address → Option (Word × Word × List Byte))
    (fetched : List (Address × AccountDiff)) : Except CacheFailure CacheDb :=
  insertAccounts keccak256 fetch fetched emptyDb

/-! ### Closed forms -/

section Closed

variable {diffs : List StateDiffs}

theorem getFromTxs_eq (blockTraces : List BlockTrace) :
    getFromTxs (some blockTraces) = some (mergeFirst (blockTraces.filterMap (·.stateDiff))) := by
  refine congrArg some (List.foldl_flatMap.trans ?_)
  rw [mergeFirst]
  congr 1
  funext merged stateDiffs
  rw [insertNew, TreeMap.foldl_eq_foldl_toList]

theorem combinedStateDiffs_eq (diffs : List StateDiffs) : combinedStateDiffs diffs = mergeLast diffs := rfl

/-- A recipe is inserted into both maps alike. -/
theorem combineRecipe_eq (maps : StateDiffs × StateDiffs) (recipe : PendingRecipe) :
    combineRecipe maps recipe
      = (insertAll maps.1 recipe.stateDiffs, insertAll maps.2 recipe.stateDiffs) := by
  rw [combineRecipe, insertAll, insertAll, TreeMap.foldl_eq_foldl_toList,
    TreeMap.foldl_eq_foldl_toList, TreeMap.foldl_eq_foldl_toList]
  exact (List.foldl_hom₂ recipe.stateDiffs.toList Prod.mk _ _ _ maps.1 maps.2 fun _ _ _ => rfl)

theorem poolStateDiffs_eq (recipes : List PendingRecipe) (multi : StateDiffs) :
    poolStateDiffs recipes multi = (mergeLast ((sortRecipes recipes).map (·.stateDiffs)),
      ((sortRecipes recipes).map (·.stateDiffs)).foldl insertAll multi) := by
  rw [poolStateDiffs, mergeLast, List.foldl_map, List.foldl_map]
  exact (List.foldl_hom₂ (sortRecipes recipes) Prod.mk _ _ _ ∅ multi fun _ _ recipe =>
    (combineRecipe_eq (_, _) recipe).symm)

theorem megaStateDiffs_eq (pending : PendingSandwiches PendingRecipe) : ∀ multi,
    (megaStateDiffs pending multi).2 = (mergeOrder pending).foldl insertAll multi := by
  induction pending with
  | nil => exact fun multi => rfl
  | cons pool rest ih =>
    intro multi
    rw [megaStateDiffs, poolStateDiffs_eq]
    exact (ih _).trans (List.foldl_append).symm

end Closed

/-! ### Entries -/

/-- The entry of a slot. -/
def entryAt (stateDiffs : StateDiffs) (address : Address) (slot : Word) : Option (Diff Word) :=
  (stateDiffs[address]?).bind fun accDiff => accDiff.storage[slot]?

/-- The first entry of a slot in some diffs. -/
def firstEntry (diffs : List StateDiffs) (address : Address) (slot : Word) : Option (Diff Word) :=
  diffs.findSome? fun stateDiffs => entryAt stateDiffs address slot

section Entries

variable {diffs : List StateDiffs} {address : Address} {slot : Word}

theorem firstEntry_eq : firstEntry diffs address slot
    = (holders diffs address).findSome? fun accDiff => accDiff.storage[slot]? := by
  induction diffs with
  | nil => rfl
  | cons stateDiffs rest ih =>
    rw [holders_cons, List.findSome?_append, ← ih, firstEntry, List.findSome?_cons, entryAt]
    cases stateDiffs[address]? with
    | none => rfl
    | some accDiff =>
      simp only [Option.bind_some, Option.toList_some, List.findSome?_cons, List.findSome?_nil]
      cases accDiff.storage[slot]? <;> rfl

theorem entryAt_mergeFirst : entryAt (mergeFirst diffs) address slot
    = (holders diffs address).head?.bind fun accDiff => accDiff.storage[slot]? := by
  rw [entryAt, getElem?_mergeFirst]

theorem entryAt_mergeLast : entryAt (mergeLast diffs) address slot
    = (holders diffs address).getLast?.bind fun accDiff => accDiff.storage[slot]? := by
  rw [entryAt, getElem?_mergeLast]

/-- A slot of some diff of the account has a first entry. -/
theorem firstEntry_isSome {accDiff : AccountDiff} (held : accDiff ∈ holders diffs address)
    (listed : slot ∈ accDiff.storage) : (firstEntry diffs address slot).isSome := by
  rw [firstEntry_eq, List.findSome?_isSome_iff]
  exact ⟨accDiff, held, TreeMap.mem_iff_isSome_getElem?.mp listed⟩

end Entries

/-! ### What the database holds -/

section Database

variable {db : CacheDb} {address other : Address} {slot : Word} {accDiff : AccountDiff}
  {keccak256 : List Byte → Word} {fetch : Address → Option (Word × Word × List Byte)}

theorem slot_foldl_insert (entries : List (Word × Word)) (db : CacheDb) :
    (entries.foldl (fun db entry => db.insertAccountStorage address entry.1 entry.2) db).slot other slot
      = (if other = address then entryOf entries.reverse slot else none).or (db.slot other slot) := by
  induction entries generalizing db with
  | nil => rw [List.foldl_nil, List.reverse_nil, entryOf, List.findSome?_nil, ite_self, Option.none_or]
  | cons entry rest ih =>
    rw [List.foldl_cons, ih, CacheDb.slot_insertAccountStorage, List.reverse_cons, entryOf, entryOf,
      List.findSome?_append]
    by_cases here : other = address
    · rw [if_pos here, if_pos here, Option.or_assoc]
      congr 1
      by_cases same : slot = entry.1
      · simp [here, same]
      · simp [same, Ne.symm same]
    · simp [here]

/-- The slots of an account are loaded with the values they had before, all others stay. -/
theorem slot_insertSlots (db : CacheDb) : (insertSlots address accDiff db).slot other slot
    = (if other = address then (accDiff.storage[slot]?).bind Diff.preState else none).or
        (db.slot other slot) := by
  have loop : insertSlots address accDiff db = (accDiff.storage.toList.filterMap fun entry =>
      entry.2.preState.map (entry.1, ·)).foldl
        (fun db entry => db.insertAccountStorage address entry.1 entry.2) db := by
    rw [insertSlots, TreeMap.foldl_eq_foldl_toList, List.foldl_filterMap]
    congr 1
    funext db entry
    cases entry.2.preState <;> rfl
  have found : entryOf (accDiff.storage.toList.filterMap fun entry =>
      entry.2.preState.map (entry.1, ·)).reverse slot = (accDiff.storage[slot]?).bind Diff.preState := by
    refine entryOf_eq fun value => ?_
    simp only [List.mem_reverse, List.mem_filterMap, Option.map_eq_some_iff, Prod.mk.injEq,
      Option.bind_eq_some_iff, Prod.exists, TreeMap.mem_toList_iff_getElem?_eq_some]
    constructor
    · rintro ⟨key, diff, listed, before, held, rfl, rfl⟩
      exact ⟨diff, listed, held⟩
    · rintro ⟨diff, listed, held⟩
      exact ⟨slot, diff, listed, value, held, rfl, rfl⟩
  rw [loop, slot_foldl_insert, found]

/-- The next account to be inserted. -/
theorem insertAccounts_cons {rest : List (Address × AccountDiff)} {last : CacheDb}
    (loads : insertAccounts keccak256 fetch ((address, accDiff) :: rest) db = .ok last) :
    ∃ info, insertAccounts keccak256 fetch rest
      (insertSlots address accDiff (db.insertAccountInfo address info)) = .ok last := by
  rw [insertAccounts] at loads
  split at loads
  · cases loads
  · split at loads
    · cases loads
    · exact ⟨_, loads⟩

/-- An account that has not been fetched keeps its slots. -/
theorem slot_insertAccounts_other {fetched : List (Address × AccountDiff)} {last : CacheDb}
    (apart : ∀ entry ∈ fetched, entry.1 ≠ address) :
    ∀ db, insertAccounts keccak256 fetch fetched db = .ok last →
      last.slot address slot = db.slot address slot := by
  induction fetched with
  | nil =>
    intro db loads
    rw [Except.ok.inj loads]
  | cons entry rest ih =>
    intro db loads
    obtain ⟨info, later⟩ := insertAccounts_cons loads
    rw [ih (fun entry there => apart entry (.tail _ there)) _ later, slot_insertSlots,
      if_neg (Ne.symm (apart entry List.mem_cons_self)), Option.none_or,
      CacheDb.slot_insertAccountInfo]

/-- An account that has been fetched once has its slots loaded. -/
theorem slot_insertAccounts {fetched : List (Address × AccountDiff)} {last : CacheDb}
    (distinct : fetched.Pairwise fun first second => first.1 ≠ second.1)
    (there : (address, accDiff) ∈ fetched) :
    ∀ db, insertAccounts keccak256 fetch fetched db = .ok last →
      last.slot address slot
        = ((accDiff.storage[slot]?).bind Diff.preState).or (db.slot address slot) := by
  induction fetched with
  | nil => exact absurd there List.not_mem_nil
  | cons entry rest ih =>
    intro db loads
    obtain ⟨info, later⟩ := insertAccounts_cons loads
    obtain ⟨apart, others⟩ := List.pairwise_cons.mp distinct
    rcases List.mem_cons.mp there with same | behind
    · subst same
      rw [slot_insertAccounts_other (fun other inside => (apart other inside).symm) _ later,
        slot_insertSlots, if_pos rfl, CacheDb.slot_insertAccountInfo]
    · have different : address ≠ entry.1 := (apart _ behind).symm
      rw [ih others behind _ later, slot_insertSlots, if_neg different, Option.none_or,
        CacheDb.slot_insertAccountInfo]

/-- The database holds the value before of every entry that has one, and no other slot. The accounts may
have been fetched in any order. -/
theorem slot_toCacheDb {stateDiffs : StateDiffs} {fetched : List (Address × AccountDiff)}
    (complete : fetched.Perm stateDiffs.toList)
    (loads : toCacheDb keccak256 fetch fetched = .ok db) :
    db.slot address slot = (entryAt stateDiffs address slot).bind Diff.preState := by
  have listed (accDiff : AccountDiff) :
      (address, accDiff) ∈ fetched ↔ stateDiffs[address]? = some accDiff :=
    complete.mem_iff.trans TreeMap.mem_toList_iff_getElem?_eq_some
  cases held : stateDiffs[address]? with
  | none =>
    have apart : ∀ entry ∈ fetched, entry.1 ≠ address := by
      rintro ⟨_, accDiff⟩ there rfl
      have found := (listed accDiff).mp there
      rw [held] at found
      exact Option.some_ne_none accDiff found.symm
    rw [slot_insertAccounts_other apart _ loads, entryAt, held]
    rfl
  | some accDiff =>
    have distinct : fetched.Pairwise fun first second => first.1 ≠ second.1 := by
      refine complete.symm.pairwise ?_ Ne.symm
      exact TreeMap.distinct_keys_toList.imp fun differ same =>
        differ (compare_eq_iff_eq.mpr same)
    rw [slot_insertAccounts distinct ((listed accDiff).mpr held) _ loads, entryAt, held]
    exact Option.or_none

end Database

/-! ### What the merges keep -/

/-- A merged map keeps the slots of some diffs: it has an entry for each, with the value before that the
first entry has, and a database made from it holds these values. -/
structure Keeps (diffs : List StateDiffs) (merged : StateDiffs) : Prop where
  entry : ∀ address slot first, firstEntry diffs address slot = some first →
    ∃ kept, entryAt merged address slot = some kept ∧ kept.preState = first.preState
  preloads : ∀ keccak256 fetch fetched db, fetched.Perm merged.toList →
    toCacheDb keccak256 fetch fetched = .ok db →
    ∀ address slot, db.slot address slot = (firstEntry diffs address slot).bind Diff.preState

/-- All diffs start from the same state of the block. -/
def SameStart (diffs : List StateDiffs) : Prop :=
  ∃ state : Address → Word → Option Word, ∀ stateDiffs ∈ diffs, ∀ address slot diff,
    entryAt stateDiffs address slot = some diff → diff ≠ .same → diff.preState = state address slot

/-- Two merged maps agree on the values before. -/
def Agree (first second : StateDiffs) : Prop :=
  ∀ address slot, (entryAt first address slot).map Diff.preState
    = (entryAt second address slot).map Diff.preState

/-- No merge loses a slot of these diffs, and the merges agree. -/
structure MergesKeep (diffs : List StateDiffs) : Prop where
  fromTxs : ∀ blockTraces, blockTraces.filterMap BlockTrace.stateDiff = diffs →
    ∃ merged, getFromTxs (some blockTraces) = some merged ∧ Keeps diffs merged
  sanityCheck : Keeps diffs (combinedStateDiffs diffs)
  pool : ∀ recipes multi, (sortRecipes recipes).map (·.stateDiffs) = diffs →
    Keeps diffs (poolStateDiffs recipes multi).1
  mega : ∀ pending, mergeOrder pending = diffs → Keeps diffs (megaStateDiffs pending ∅).2
  agree : SameStart diffs → ∀ blockTraces merged pending,
    blockTraces.filterMap BlockTrace.stateDiff = diffs → getFromTxs (some blockTraces) = some merged →
    mergeOrder pending = diffs →
    Agree merged (combinedStateDiffs diffs) ∧ Agree merged (megaStateDiffs pending ∅).2

/-- The first and the last diff of an account list every slot of it that any diff lists, the last one
with the value before that the first entry has. -/
structure EndsCover (diffs : List StateDiffs) : Prop where
  first : ∀ address slot entry, firstEntry diffs address slot = some entry →
    ∃ accDiff ∈ (holders diffs address).head?, slot ∈ accDiff.storage
  last : ∀ address slot entry, firstEntry diffs address slot = some entry →
    ∃ accDiff ∈ (holders diffs address).getLast?, ∃ kept ∈ accDiff.storage[slot]?,
      kept.preState = entry.preState

section Keep

variable {diffs : List StateDiffs} {merged other : StateDiffs}

/-- Every account of a merged map is taken from one of the diffs. -/
def Moves (diffs : List StateDiffs) (merged : StateDiffs) : Prop :=
  ∀ address accDiff, merged[address]? = some accDiff → accDiff ∈ holders diffs address

theorem moves_mergeFirst (diffs : List StateDiffs) : Moves diffs (mergeFirst diffs) := by
  intro address accDiff there
  rw [getElem?_mergeFirst] at there
  exact List.mem_of_head? there

theorem moves_mergeLast (diffs : List StateDiffs) : Moves diffs (mergeLast diffs) := by
  intro address accDiff there
  rw [getElem?_mergeLast] at there
  exact List.mem_of_getLast? there

/-- So it has no slots of its own. -/
theorem Moves.entryAt_eq_none (moves : Moves diffs merged) {address : Address} {slot : Word}
    (missing : firstEntry diffs address slot = none) : entryAt merged address slot = none := by
  cases held : entryAt merged address slot with
  | none => rfl
  | some kept =>
    obtain ⟨accDiff, there, listed⟩ := Option.bind_eq_some_iff.mp held
    have found := firstEntry_isSome (moves address accDiff there)
      (TreeMap.mem_iff_isSome_getElem?.mpr (Option.isSome_of_eq_some listed))
    rw [missing] at found
    exact absurd found Bool.false_ne_true

/-- It is enough to look at the entries. -/
theorem Moves.keeps (moves : Moves diffs merged)
    (entry : ∀ address slot first, firstEntry diffs address slot = some first →
      ∃ kept, entryAt merged address slot = some kept ∧ kept.preState = first.preState) :
    Keeps diffs merged where
  entry := entry
  preloads keccak256 fetch fetched db complete loads address slot := by
    rw [slot_toCacheDb complete loads]
    cases found : firstEntry diffs address slot with
    | none => rw [moves.entryAt_eq_none found]
    | some first =>
      obtain ⟨kept, held, same⟩ := entry address slot first found
      rw [held, Option.bind_some, Option.bind_some, same]

theorem Keeps.agree (moves : Moves diffs merged) (keeps : Keeps diffs merged)
    (movesOther : Moves diffs other) (keepsOther : Keeps diffs other) : Agree merged other := by
  intro address slot
  cases found : firstEntry diffs address slot with
  | none => rw [moves.entryAt_eq_none found, movesOther.entryAt_eq_none found]
  | some first =>
    obtain ⟨kept, held, same⟩ := keeps.entry address slot first found
    obtain ⟨keptOther, heldOther, sameOther⟩ := keepsOther.entry address slot first found
    rw [held, heldOther, Option.map_some, Option.map_some, same, sameOther]

/-- The first merge keeps the entries that the first diff of an account lists. -/
theorem keeps_mergeFirst_iff : Keeps diffs (mergeFirst diffs)
    ↔ ∀ address slot entry, firstEntry diffs address slot = some entry →
      ∃ accDiff ∈ (holders diffs address).head?, slot ∈ accDiff.storage := by
  constructor
  · intro keeps address slot entry found
    obtain ⟨kept, held, -⟩ := keeps.entry address slot entry found
    rw [entryAt_mergeFirst] at held
    obtain ⟨accDiff, first, listed⟩ := Option.bind_eq_some_iff.mp held
    exact ⟨accDiff, first,
      TreeMap.mem_iff_isSome_getElem?.mpr (Option.isSome_of_eq_some listed)⟩
  · intro covers
    refine (moves_mergeFirst diffs).keeps fun address slot entry found => ?_
    obtain ⟨accDiff, first, listed⟩ := covers address slot entry found
    obtain ⟨kept, held⟩ := Option.isSome_iff_exists.mp (TreeMap.mem_iff_isSome_getElem?.mp listed)
    -- the entry of the first diff is the first entry
    obtain ⟨rest, split⟩ := List.head?_eq_some_iff.mp first
    rw [firstEntry_eq, split, List.findSome?_cons, held, Option.some.injEq] at found
    subst found
    refine ⟨kept, ?_, rfl⟩
    rw [entryAt_mergeFirst, first, Option.bind_some, held]

/-- The last merge keeps the entries that the last diff of an account lists as the first one does. -/
theorem keeps_mergeLast_iff : Keeps diffs (mergeLast diffs)
    ↔ ∀ address slot entry, firstEntry diffs address slot = some entry →
      ∃ accDiff ∈ (holders diffs address).getLast?, ∃ kept ∈ accDiff.storage[slot]?,
        kept.preState = entry.preState := by
  constructor
  · intro keeps address slot entry found
    obtain ⟨kept, held, same⟩ := keeps.entry address slot entry found
    rw [entryAt_mergeLast] at held
    obtain ⟨accDiff, last, listed⟩ := Option.bind_eq_some_iff.mp held
    exact ⟨accDiff, last, kept, listed, same⟩
  · intro covers
    refine (moves_mergeLast diffs).keeps fun address slot entry found => ?_
    obtain ⟨accDiff, last, kept, listed, same⟩ := covers address slot entry found
    refine ⟨kept, ?_, same⟩
    rw [entryAt_mergeLast, last, Option.bind_some, listed]

end Keep

/-- The merges keep all slots exactly when the ends of the list cover them. -/
theorem merges_keep_iff (diffs : List StateDiffs) : MergesKeep diffs ↔ EndsCover diffs := by
  constructor
  · intro keep
    have order : (diffs.map fun stateDiffs => (⟨some stateDiffs⟩ : BlockTrace)).filterMap
        BlockTrace.stateDiff = diffs := by
      simp [List.filterMap_map]
    obtain ⟨merged, built, keeps⟩ := keep.fromTxs _ order
    rw [getFromTxs_eq, order, Option.some.injEq] at built
    subst built
    exact ⟨keeps_mergeFirst_iff.mp keeps, keeps_mergeLast_iff.mp keep.sanityCheck⟩
  · rintro ⟨first, last⟩
    have keepsFirst := keeps_mergeFirst_iff.mpr first
    have keepsLast := keeps_mergeLast_iff.mpr last
    have agree := Keeps.agree (moves_mergeFirst diffs) keepsFirst (moves_mergeLast diffs) keepsLast
    have mega (pending : PendingSandwiches PendingRecipe) (order : mergeOrder pending = diffs) :
        (megaStateDiffs pending ∅).2 = combinedStateDiffs diffs := by
      rw [megaStateDiffs_eq, order, combinedStateDiffs_eq, mergeLast]
    rw [← combinedStateDiffs_eq] at keepsLast agree
    refine ⟨fun blockTraces order => ⟨_, getFromTxs_eq blockTraces, ?_⟩, keepsLast,
      fun recipes multi order => ?_, fun pending order => ?_,
      fun _ blockTraces merged pending order built orderMega => ?_⟩
    · rw [order]
      exact keepsFirst
    · rw [poolStateDiffs_eq, order, ← combinedStateDiffs_eq]
      exact keepsLast
    · rw [mega pending order]
      exact keepsLast
    · rw [getFromTxs_eq, order, Option.some.injEq] at built
      subst built
      rw [mega pending orderMega]
      exact ⟨agree, agree⟩

/-- A swap on the pair of USDC: one WETH more. -/
def usdcSwap : StateDiffs := (∅ : StateDiffs).insert getWethAddress
  ⟨(∅ : TreeMap Word (Diff Word)).insert (storageKey pairKeccak usdcPair)
    (.changed 1000000000000000000 2000000000000000000)⟩

/-- A swap on the pair of Dai. -/
def daiSwap : StateDiffs := (∅ : StateDiffs).insert getWethAddress
  ⟨(∅ : TreeMap Word (Diff Word)).insert (storageKey pairKeccak daiPair)
    (.changed 3000000000000000000 4000000000000000000)⟩

/-- Of two swaps, `getFromTxs` loses the slot of the second one and the sanity check that of the first
one. -/
theorem two_swaps_not_keep :
    entryAt (mergeFirst [usdcSwap, daiSwap]) getWethAddress (storageKey pairKeccak daiPair) = none
    ∧ entryAt (combinedStateDiffs [usdcSwap, daiSwap]) getWethAddress (storageKey pairKeccak usdcPair)
      = none
    ∧ ¬ MergesKeep [usdcSwap, daiSwap] := by
  have lost : entryAt (combinedStateDiffs [usdcSwap, daiSwap]) getWethAddress
      (storageKey pairKeccak usdcPair) = none := by
    decide +kernel
  refine ⟨by decide +kernel, lost, fun keep => ?_⟩
  obtain ⟨kept, held, -⟩ := keep.sanityCheck.entry getWethAddress (storageKey pairKeccak usdcPair)
    (.changed 1000000000000000000 2000000000000000000) (by decide +kernel)
  rw [lost] at held
  exact Option.some_ne_none kept held.symm

end Sando.StateDiff
