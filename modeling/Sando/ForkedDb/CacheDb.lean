/-
The in-memory database of the forks.

A `CacheDb` on an empty database: accounts with their slots, and block hashes. Inserting an account
info replaces the info and nothing else. Inserting a slot of an account without an entry makes a
default one first. A commit overwrites the info and the listed slots of every touched account and
marks the storage of a created or destroyed one as cleared. The contracts by hash are left out.
-/

import Sando.Evm.Bytes

namespace Sando.ForkedDb

open Sando.Evm

structure AccountInfo where
  balance : Word
  nonce : BitVec 64
  codeHash : Word
  code : Option (List Byte)
  deriving DecidableEq

/-- The hash of no code. -/
def keccakEmpty : Word := 0xc5d2460186f7233c927e7db2dcc703c0e500b653ca82273b7bfad8045d85a470

def AccountInfo.default : AccountInfo := ⟨0, 0, keccakEmpty, some []⟩

/-- What is known of the storage of an account as a whole. -/
inductive AccountState
  | notExisting | touched | storageCleared | none
  deriving DecidableEq

structure DbAccount where
  info : AccountInfo
  accountState : AccountState
  storage : Word → Option Word

def DbAccount.default : DbAccount := ⟨.default, .none, fun _ => none⟩

def DbAccount.newNotExisting : DbAccount := { DbAccount.default with accountState := .notExisting }

structure CacheDb where
  accounts : Address → Option DbAccount
  blockHashes : Word → Option Word

/-- A database with nothing in it. -/
def emptyDb : CacheDb := ⟨fun _ => none, fun _ => none⟩

/-- An account as a transaction leaves it, with the slots it holds. -/
structure Account where
  info : AccountInfo
  storage : Word → Option Word
  isTouched : Bool
  isCreated : Bool
  isSelfdestructed : Bool

/-- The accounts a transaction leaves. -/
abbrev Changes := Address → Option Account

namespace CacheDb

/-- Replace the entry of an account. -/
def setAccount (db : CacheDb) (address : Address) (account : DbAccount) : CacheDb :=
  { db with accounts := Function.update db.accounts address (some account) }

/-- The slot of an account, when it is in the database. -/
def slot (db : CacheDb) (address : Address) (index : Word) : Option Word :=
  (db.accounts address).bind fun account => account.storage index

def insertAccountInfo (db : CacheDb) (address : Address) (info : AccountInfo) : CacheDb :=
  db.setAccount address { (db.accounts address).getD .default with info }

/-- The entry of an account, made when there is none. -/
def loadAccount (db : CacheDb) (address : Address) : DbAccount :=
  (db.accounts address).getD .newNotExisting

def insertAccountStorage (db : CacheDb) (address : Address) (index value : Word) : CacheDb :=
  let account := db.loadAccount address
  db.setAccount address { account with storage := Function.update account.storage index (some value) }

def insertBlockHash (db : CacheDb) (number hash : Word) : CacheDb :=
  { db with blockHashes := Function.update db.blockHashes number (some hash) }

/-- The entry of an account behind a commit. -/
def commitAccount (entry : Option DbAccount) (account : Account) : Option DbAccount :=
  if !account.isTouched then entry
  else if account.isSelfdestructed then some ⟨.default, .notExisting, fun _ => none⟩
  else
    let dbAccount := entry.getD .default
    let kept := if account.isCreated then fun _ => none else dbAccount.storage
    let accountState :=
      if account.isCreated then .storageCleared
      -- preserve old account state if it already exists
      else if dbAccount.accountState = .storageCleared then .storageCleared
      else .touched
    some ⟨account.info, accountState, fun index => (account.storage index).or (kept index)⟩

def commit (db : CacheDb) (changes : Changes) : CacheDb :=
  { db with accounts := fun address =>
      match changes address with
      | none => db.accounts address
      | some account => commitAccount (db.accounts address) account }

section Access

variable (db : CacheDb) (address other : Address) (index otherIndex value number hash : Word)
  (info : AccountInfo) (account : DbAccount)

@[simp] theorem accounts_setAccount_self :
    (db.setAccount address account).accounts address = some account := Function.update_self ..

theorem accounts_setAccount_of_ne (apart : other ≠ address) :
    (db.setAccount address account).accounts other = db.accounts other :=
  Function.update_of_ne apart ..

@[simp] theorem accounts_insertAccountInfo_self :
    (db.insertAccountInfo address info).accounts address
      = some { (db.accounts address).getD .default with info } := accounts_setAccount_self ..

theorem accounts_insertAccountInfo_of_ne (apart : other ≠ address) :
    (db.insertAccountInfo address info).accounts other = db.accounts other :=
  accounts_setAccount_of_ne _ _ _ _ apart

@[simp] theorem accounts_insertAccountStorage_self :
    (db.insertAccountStorage address index value).accounts address
      = some { db.loadAccount address with
          storage := Function.update (db.loadAccount address).storage index (some value) } :=
  accounts_setAccount_self ..

theorem accounts_insertAccountStorage_of_ne (apart : other ≠ address) :
    (db.insertAccountStorage address index value).accounts other = db.accounts other :=
  accounts_setAccount_of_ne _ _ _ _ apart

/-- Inserting an info leaves every slot. -/
@[simp] theorem slot_insertAccountInfo :
    (db.insertAccountInfo address info).slot other otherIndex = db.slot other otherIndex := by
  by_cases same : other = address
  · subst same
    rw [slot, slot, accounts_insertAccountInfo_self]
    cases db.accounts other <;> rfl
  · rw [slot, slot, accounts_insertAccountInfo_of_ne _ _ _ _ same]

/-- Inserting a slot sets it and leaves every other one. -/
theorem slot_insertAccountStorage :
    (db.insertAccountStorage address index value).slot other otherIndex
      = if other = address ∧ otherIndex = index then some value else db.slot other otherIndex := by
  by_cases same : other = address
  · subst same
    have loaded : (db.loadAccount other).storage otherIndex = db.slot other otherIndex := by
      rw [loadAccount, slot]
      cases db.accounts other <;> rfl
    rw [slot, accounts_insertAccountStorage_self]
    simp only [Option.bind_some, Function.update_apply, loaded, true_and]
  · rw [slot, slot, accounts_insertAccountStorage_of_ne _ _ _ _ _ same,
      if_neg fun both => same both.1]

end Access

/-! ### Commits -/

section Commit

variable {db : CacheDb} {changes : Changes} {address : Address} {account : Account}
  (index : Word)

theorem accounts_commit_none (unchanged : changes address = none) :
    (db.commit changes).accounts address = db.accounts address := by
  simp only [commit, unchanged]

theorem accounts_commit_some (changed : changes address = some account) :
    (db.commit changes).accounts address = commitAccount (db.accounts address) account := by
  simp only [commit, changed]

theorem commitAccount_untouched (entry : Option DbAccount) (untouched : ¬ account.isTouched = true) :
    commitAccount entry account = entry := by
  simp [commitAccount, untouched]

theorem commitAccount_selfdestructed (entry : Option DbAccount) (touched : account.isTouched = true)
    (destroyed : account.isSelfdestructed = true) :
    commitAccount entry account = some ⟨.default, .notExisting, fun _ => none⟩ := by
  simp [commitAccount, touched, destroyed]

/-- The info and the slots of an account that a commit keeps. -/
theorem commitAccount_kept (entry : Option DbAccount) (touched : account.isTouched = true)
    (kept : ¬ account.isSelfdestructed = true) : ∃ after, commitAccount entry account = some after
      ∧ after.info = account.info
      ∧ after.storage index = (account.storage index).or
          (if account.isCreated then none else entry.bind (DbAccount.storage · index)) := by
  refine ⟨_, by rw [commitAccount, touched, Bool.not_true, if_neg (by decide), if_neg kept], rfl, ?_⟩
  by_cases created : account.isCreated = true
  · simp only [created, if_true]
  · simp only [created]
    cases entry <;> rfl

end Commit

end CacheDb

end Sando.ForkedDb
