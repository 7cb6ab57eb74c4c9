/-
A fork as a read-your-writes overlay.

`ForkDB` answers a read from its own database and asks the backend for what is missing. `overlayBasic`
and `overlayStorage` are what a read is for: the last commit counts, then the initial database, then
the fork. `IsOverlay` says that a fork answers so, in both implementations. A read of a missing slot
through the mutable one asks for the account info again and replaces what a commit has written, and
neither implementation looks at cleared storage. `Keeps` is the condition on a step under which this
does no harm, and `overlay_iff` proves that the runs in which every state is an overlay are those whose
steps all meet it.
-/

import Sando.ForkedDb.CacheDb
import Sando.Program.Runs

namespace Sando.ForkedDb

open Sando.Evm Sando.Program CacheDb

/-! ### The fork -/

/-- A backend that answers each key with a fixed value. -/
structure Backend where
  basic : Address → AccountInfo
  storage : Address → Word → Word
  blockHash : Word → Word

namespace Backend

/-- The backend always knows an account. -/
def doGetBasic (backend : Backend) (address : Address) : Option AccountInfo :=
  some (backend.basic address)

def doGetStorage (backend : Backend) (address : Address) (index : Word) : Word :=
  backend.storage address index

def doGetBlockHash (backend : Backend) (number : Word) : Word := backend.blockHash number

end Backend

namespace ForkDb

/-! The mutable implementation keeps what it fetches. -/

def basic (backend : Backend) (db : CacheDb) (address : Address) : Option AccountInfo × CacheDb :=
  match db.accounts address with
  -- basic info is already in db
  | some account => (some account.info, db)
  | none =>
    match backend.doGetBasic address with
    | some info => (some info, db.insertAccountInfo address info)
    | none => (none, db)

def storage (backend : Backend) (db : CacheDb) (address : Address) (index : Word) : Word × CacheDb :=
  match db.slot address index with
  -- account storage exists at slot
  | some entry => (entry, db)
  | none =>
    let db := match backend.doGetBasic address with
      | some info => db.insertAccountInfo address info
      | none => db
    let value := backend.doGetStorage address index
    (value, db.insertAccountStorage address index value)

def blockHash (backend : Backend) (db : CacheDb) (number : Word) : Word × CacheDb :=
  match db.blockHashes number with
  | some hash => (hash, db)
  | none =>
    let hash := backend.doGetBlockHash number
    (hash, db.insertBlockHash number hash)

/-! The shared implementation keeps nothing. -/

def basicRef (backend : Backend) (db : CacheDb) (address : Address) : Option AccountInfo :=
  match db.accounts address with
  | some account => some account.info
  | none => backend.doGetBasic address

def storageRef (backend : Backend) (db : CacheDb) (address : Address) (index : Word) : Word :=
  match db.slot address index with
  | some entry => entry
  | none => backend.doGetStorage address index

def blockHashRef (backend : Backend) (number : Word) : Word :=
  if 2 ^ 64 - 1 < number.toNat then keccakEmpty else backend.doGetBlockHash number

end ForkDb

/-! ### The factory -/

namespace ForkFactory

/-- Insert storage into the initial database of the forks to come. -/
def insertAccountStorage (backend : Backend) (initialDb : CacheDb) (address : Address)
    (slot value : Word) : CacheDb :=
  let initialDb :=
    match initialDb.accounts address with
    | some _ => initialDb
    | none =>
      -- set basic info as its missing
      match backend.doGetBasic address with
      | some info => initialDb.insertAccountInfo address info
      | none => initialDb
  initialDb.insertAccountStorage address slot value

/-- Insert account basic info into the initial database of the forks to come. -/
def insertAccountInfo (initialDb : CacheDb) (address : Address) (info : AccountInfo) : CacheDb :=
  initialDb.insertAccountInfo address info

/-- A fork starts with the initial database. -/
def newSandboxFork (initialDb : CacheDb) : CacheDb := initialDb

end ForkFactory

/-! ### The overlay -/

/-- The info a commit leaves for an account. -/
def committedInfo (changes : Changes) (address : Address) : Option AccountInfo :=
  (changes address).bind fun account =>
    if account.isTouched then
      some (if account.isSelfdestructed then .default else account.info)
    else none

/-- The value a commit leaves for a slot: the one it wrote, or zero where it cleared the storage. -/
def committedSlot (changes : Changes) (address : Address) (index : Word) : Option Word :=
  (changes address).bind fun account =>
    if account.isTouched then
      if account.isSelfdestructed then some 0
      else (account.storage index).or (if account.isCreated then some 0 else none)
    else none

/-- The info of an account behind some commits, the last one in front. -/
def overlayBasic (backend : Backend) (initial : CacheDb) (commits : List Changes)
    (address : Address) : AccountInfo :=
  match commits.findSome? (committedInfo · address) with
  | some info => info
  | none =>
    match initial.accounts address with
    | some account => account.info
    | none => backend.basic address

/-- The value of a slot behind some commits, the last one in front. -/
def overlayStorage (backend : Backend) (initial : CacheDb) (commits : List Changes)
    (address : Address) (index : Word) : Word :=
  match commits.findSome? (committedSlot · address index) with
  | some value => value
  | none => (initial.slot address index).getD (backend.storage address index)

/-! ### Runs -/

/-- An operation on a fork. -/
inductive Op
  | commit (changes : Changes)
  | basic (address : Address)
  | storage (address : Address) (index : Word)
  | blockHash (number : Word)
  | basicRef (address : Address)
  | storageRef (address : Address) (index : Word)
  | blockHashRef (number : Word)

/-- Every operation but a commit is a read. -/
def Op.IsRead : Op → Prop
  | .commit _ => False
  | _ => True

/-- A fork, with its commits so far, the last one in front. -/
structure Session where
  db : CacheDb
  commits : List Changes

/-- A session behind an operation. -/
def Session.next (backend : Backend) (session : Session) : Op → Session
  | .commit changes => ⟨session.db.commit changes, changes :: session.commits⟩
  | .basic address => { session with db := (ForkDb.basic backend session.db address).2 }
  | .storage address index =>
    { session with db := (ForkDb.storage backend session.db address index).2 }
  | .blockHash number => { session with db := (ForkDb.blockHash backend session.db number).2 }
  | .basicRef _ | .storageRef _ _ | .blockHashRef _ => session

/-- A run from an initial database. -/
abbrev SessionRun (backend : Backend) (initial : CacheDb) : List (Session × Op) → Session → Prop :=
  Run (functional (Session.next backend)) ⟨initial, []⟩

/-- Every answer of the fork is the one of the overlay. -/
structure IsOverlay (backend : Backend) (initial : CacheDb) (session : Session) : Prop where
  basic : ∀ address, (ForkDb.basic backend session.db address).1
    = some (overlayBasic backend initial session.commits address)
  storage : ∀ address index, (ForkDb.storage backend session.db address index).1
    = overlayStorage backend initial session.commits address index

/-- The mutable and the shared implementation agree. -/
structure Agree (backend : Backend) (db : CacheDb) : Prop where
  basic : ∀ address, (ForkDb.basic backend db address).1 = ForkDb.basicRef backend db address
  storage : ∀ address index, (ForkDb.storage backend db address index).1
    = ForkDb.storageRef backend db address index

/-- All answers of two databases are the same. -/
structure SameAnswers (backend : Backend) (db other : CacheDb) : Prop where
  basic : ∀ address, (ForkDb.basic backend db address).1 = (ForkDb.basic backend other address).1
  storage : ∀ address index, (ForkDb.storage backend db address index).1
    = (ForkDb.storage backend other address index).1
  blockHash : ∀ number, (ForkDb.blockHash backend db number).1
    = (ForkDb.blockHash backend other number).1

/-- A commit clears the storage of an account and leaves the slot empty. -/
def Clears (changes : Changes) (address : Address) (index : Word) : Prop :=
  ∃ account, changes address = some account ∧ account.isTouched = true
    ∧ (account.isSelfdestructed = true ∨ account.isCreated = true ∧ account.storage index = none)

/-- The condition on a step. Where a commit clears a slot the fork has zero, and a slot that is not in
the database is fetched for an account whose info is the one of the fork. -/
def Keeps (backend : Backend) (session : Session) : Op → Prop
  | .commit changes => ∀ address index, Clears changes address index →
      backend.storage address index = 0
  | .storage address index => session.db.slot address index = none →
      ∀ account, session.db.accounts address = some account → account.info = backend.basic address
  | _ => True

/-! ### Answers -/

section Answers

variable (backend : Backend) (db : CacheDb) (address other : Address) (index otherIndex number : Word)

@[simp] theorem basic_fst :
    (ForkDb.basic backend db address).1 = ForkDb.basicRef backend db address := by
  unfold ForkDb.basic ForkDb.basicRef
  cases db.accounts address <;> rfl

@[simp] theorem storage_fst :
    (ForkDb.storage backend db address index).1 = ForkDb.storageRef backend db address index := by
  unfold ForkDb.storage ForkDb.storageRef
  cases db.slot address index <;> rfl

theorem blockHash_fst : (ForkDb.blockHash backend db number).1
    = (db.blockHashes number).getD (backend.blockHash number) := by
  unfold ForkDb.blockHash
  cases db.blockHashes number <;> rfl

theorem agree : Agree backend db := ⟨basic_fst backend db, storage_fst backend db⟩

theorem basicRef_eq : ForkDb.basicRef backend db address
    = some (((db.accounts address).map DbAccount.info).getD (backend.basic address)) := by
  unfold ForkDb.basicRef
  cases db.accounts address <;> rfl

theorem storageRef_eq : ForkDb.storageRef backend db address index
    = (db.slot address index).getD (backend.storage address index) := by
  unfold ForkDb.storageRef
  cases db.slot address index <;> rfl

/-- Keeping an info that was fetched changes no answer. -/
theorem sameAnswers_basic : SameAnswers backend (ForkDb.basic backend db address).2 db := by
  unfold ForkDb.basic
  cases missing : db.accounts address with
  | some account => exact ⟨fun _ => rfl, fun _ _ => rfl, fun _ => rfl⟩
  | none =>
    refine ⟨fun other => ?_, fun other index => ?_, fun number => ?_⟩
    · simp only [Backend.doGetBasic, basic_fst, basicRef_eq]
      by_cases same : other = address
      · subst same
        rw [accounts_insertAccountInfo_self, missing]
        rfl
      · rw [accounts_insertAccountInfo_of_ne _ _ _ _ same]
    · simp only [Backend.doGetBasic, storage_fst, storageRef_eq, slot_insertAccountInfo]
    · rw [blockHash_fst, blockHash_fst]
      rfl

theorem sameAnswers_blockHash : SameAnswers backend (ForkDb.blockHash backend db number).2 db := by
  unfold ForkDb.blockHash
  cases missing : db.blockHashes number with
  | some hash => exact ⟨fun _ => rfl, fun _ _ => rfl, fun _ => rfl⟩
  | none =>
    refine ⟨fun other => ?_, fun other index => ?_, fun other => ?_⟩
    · rw [basic_fst, basic_fst]
      rfl
    · rw [storage_fst, storage_fst]
      rfl
    · rw [blockHash_fst, blockHash_fst]
      change (Function.update db.blockHashes number (some (backend.blockHash number)) other).getD _ = _
      rw [Function.update_apply]
      by_cases same : other = number
      · rw [if_pos same, same, missing]
        rfl
      · rw [if_neg same]

/-- The database behind the fetch of a slot. -/
theorem storage_snd (missing : db.slot address index = none) :
    (ForkDb.storage backend db address index).2
      = (db.insertAccountInfo address (backend.basic address)).insertAccountStorage address index
          (backend.storage address index) := by
  unfold ForkDb.storage
  rw [missing]
  rfl

/-- Fetching a slot changes no slot. -/
theorem storageRef_storage :
    ForkDb.storageRef backend (ForkDb.storage backend db address index).2 other otherIndex
      = ForkDb.storageRef backend db other otherIndex := by
  cases missing : db.slot address index with
  | some entry =>
    unfold ForkDb.storage
    rw [missing]
  | none =>
    rw [storage_snd backend db address index missing, storageRef_eq, storageRef_eq,
      slot_insertAccountStorage, slot_insertAccountInfo]
    by_cases same : other = address ∧ otherIndex = index
    · rw [if_pos same, same.1, same.2, missing]
      rfl
    · rw [if_neg same]

/-- Fetching a slot replaces the info of the account. -/
theorem basicRef_storage (missing : db.slot address index = none) :
    ForkDb.basicRef backend (ForkDb.storage backend db address index).2 other
      = if other = address then some (backend.basic address)
        else ForkDb.basicRef backend db other := by
  rw [storage_snd backend db address index missing, basicRef_eq, basicRef_eq]
  by_cases same : other = address
  · subst same
    rw [accounts_insertAccountStorage_self, if_pos rfl, loadAccount, accounts_insertAccountInfo_self]
    rfl
  · rw [accounts_insertAccountStorage_of_ne _ _ _ _ _ same,
      accounts_insertAccountInfo_of_ne _ _ _ _ same, if_neg same]

/-- A slot that is set at the factory is what its forks answer, and nothing else changes. -/
theorem newSandboxFork_insertAccountStorage (value : Word) :
    ForkDb.storageRef backend (ForkFactory.newSandboxFork
        (ForkFactory.insertAccountStorage backend db address index value)) other otherIndex
      = (if other = address ∧ otherIndex = index then value
        else ForkDb.storageRef backend (ForkFactory.newSandboxFork db) other otherIndex)
    ∧ ForkDb.basicRef backend (ForkFactory.newSandboxFork
        (ForkFactory.insertAccountStorage backend db address index value)) other
      = ForkDb.basicRef backend (ForkFactory.newSandboxFork db) other := by
  unfold ForkFactory.insertAccountStorage ForkFactory.newSandboxFork
  constructor
  · rw [storageRef_eq, storageRef_eq, slot_insertAccountStorage]
    by_cases same : other = address ∧ otherIndex = index
    · rw [if_pos same, if_pos same]
      rfl
    · rw [if_neg same, if_neg same]
      cases db.accounts address with
      | some account => rfl
      | none => rw [Backend.doGetBasic, slot_insertAccountInfo]
  · rw [basicRef_eq, basicRef_eq]
    by_cases same : other = address
    · subst same
      rw [accounts_insertAccountStorage_self, loadAccount]
      cases entry : db.accounts other with
      | some account =>
        simp only [entry]
        rfl
      | none =>
        simp only [Backend.doGetBasic, accounts_insertAccountInfo_self, entry]
        rfl
    · rw [accounts_insertAccountStorage_of_ne _ _ _ _ _ same]
      cases db.accounts address with
      | some account => rfl
      | none => rw [Backend.doGetBasic, accounts_insertAccountInfo_of_ne _ _ _ _ same]

end Answers

/-! ### Commits -/

section Commits

variable (backend : Backend) (db : CacheDb) (changes : Changes) (address : Address) (index : Word)

/-- A commit replaces the infos it leaves. -/
theorem basicRef_commit : ForkDb.basicRef backend (db.commit changes) address
    = ((committedInfo changes address).map some).getD (ForkDb.basicRef backend db address) := by
  rw [basicRef_eq, basicRef_eq, committedInfo]
  cases changed : changes address with
  | none =>
    rw [accounts_commit_none changed]
    rfl
  | some account =>
    rw [accounts_commit_some changed, Option.bind_some]
    by_cases touched : account.isTouched = true
    · rw [if_pos touched]
      by_cases destroyed : account.isSelfdestructed = true
      · rw [commitAccount_selfdestructed _ touched destroyed, if_pos destroyed]
        rfl
      · obtain ⟨after, committed, info, -⟩ :=
          commitAccount_kept 0 (db.accounts address) touched destroyed
        rw [committed, if_neg destroyed, ← info]
        rfl
    · rw [commitAccount_untouched _ touched, if_neg touched]
      rfl

/-- What is asked of a slot that a commit clears: the commit leaves zero, and the fork is asked. -/
theorem storageRef_commit_of_clears (clears : Clears changes address index) :
    ForkDb.storageRef backend (db.commit changes) address index = backend.storage address index
      ∧ committedSlot changes address index = some 0 := by
  obtain ⟨account, changed, touched, how⟩ := clears
  rw [storageRef_eq, slot, accounts_commit_some changed, committedSlot, changed, Option.bind_some,
    if_pos touched]
  by_cases destroyed : account.isSelfdestructed = true
  · rw [commitAccount_selfdestructed _ touched destroyed, if_pos destroyed]
    exact ⟨rfl, rfl⟩
  · obtain ⟨created, unwritten⟩ := how.resolve_left destroyed
    obtain ⟨after, committed, -, storage⟩ :=
      commitAccount_kept index (db.accounts address) touched destroyed
    rw [committed, Option.bind_some, storage, if_neg destroyed, unwritten, if_pos created,
      if_pos created]
    exact ⟨rfl, rfl⟩

/-- A commit replaces the slots it leaves, when it does not clear them. -/
theorem storageRef_commit (clears : ¬ Clears changes address index) :
    ForkDb.storageRef backend (db.commit changes) address index
      = (committedSlot changes address index).getD (ForkDb.storageRef backend db address index) := by
  rw [storageRef_eq, storageRef_eq, slot, slot, committedSlot]
  cases changed : changes address with
  | none =>
    rw [accounts_commit_none changed]
    rfl
  | some account =>
    rw [accounts_commit_some changed, Option.bind_some]
    by_cases touched : account.isTouched = true
    · by_cases destroyed : account.isSelfdestructed = true
      · exact absurd ⟨account, changed, touched, Or.inl destroyed⟩ clears
      · obtain ⟨after, committed, -, storage⟩ :=
          commitAccount_kept index (db.accounts address) touched destroyed
        rw [if_pos touched, if_neg destroyed, committed, Option.bind_some, storage]
        cases written : account.storage index with
        | some value => rfl
        | none =>
          have kept : ¬ account.isCreated = true := fun created =>
            clears ⟨account, changed, touched, Or.inr ⟨created, written⟩⟩
          rw [if_neg kept, if_neg kept]
          rfl
    · rw [commitAccount_untouched _ touched, if_neg touched]
      rfl

end Commits

/-! ### Steps -/

section Steps

variable {backend : Backend} {initial : CacheDb} {session : Session} {op : Op}

/-- An overlay, as the shared implementation sees it. -/
theorem isOverlay_iff : IsOverlay backend initial session ↔
    (∀ address, ForkDb.basicRef backend session.db address
      = some (overlayBasic backend initial session.commits address))
    ∧ ∀ address index, ForkDb.storageRef backend session.db address index
      = overlayStorage backend initial session.commits address index := by
  constructor
  · intro overlay
    exact ⟨fun address => (basic_fst ..).symm.trans (overlay.basic address),
      fun address index => (storage_fst ..).symm.trans (overlay.storage address index)⟩
  · rintro ⟨basic, storage⟩
    exact ⟨fun address => (basic_fst ..).trans (basic address),
      fun address index => (storage_fst ..).trans (storage address index)⟩

theorem isOverlay_initial (backend : Backend) (initial : CacheDb) :
    IsOverlay backend initial ⟨initial, []⟩ := by
  refine isOverlay_iff.mpr ⟨fun address => ?_, fun address index => ?_⟩
  · rw [basicRef_eq, overlayBasic, List.findSome?_nil]
    cases initial.accounts address <;> rfl
  · rw [storageRef_eq, overlayStorage, List.findSome?_nil]

theorem overlayBasic_cons (changes : Changes) (commits : List Changes) (address : Address) :
    overlayBasic backend initial (changes :: commits) address
      = (committedInfo changes address).getD (overlayBasic backend initial commits address) := by
  rw [overlayBasic, List.findSome?_cons]
  cases committedInfo changes address <;> rfl

theorem overlayStorage_cons (changes : Changes) (commits : List Changes) (address : Address)
    (index : Word) : overlayStorage backend initial (changes :: commits) address index
      = (committedSlot changes address index).getD
        (overlayStorage backend initial commits address index) := by
  rw [overlayStorage, List.findSome?_cons]
  cases committedSlot changes address index <;> rfl

/-- A database with the same answers is the same overlay. -/
theorem IsOverlay.of_sameAnswers {db : CacheDb} (overlay : IsOverlay backend initial session)
    (same : SameAnswers backend db session.db) :
    IsOverlay backend initial { session with db } :=
  ⟨fun address => (same.basic address).trans (overlay.basic address),
    fun address index => (same.storage address index).trans (overlay.storage address index)⟩

/-- A read that meets the condition changes no answer. -/
theorem sameAnswers_next (op : Op) (isRead : op.IsRead) (keeps : Keeps backend session op) :
    SameAnswers backend (session.next backend op).db session.db := by
  cases op with
  | commit changes => exact absurd isRead id
  | basic address => exact sameAnswers_basic backend session.db address
  | blockHash number => exact sameAnswers_blockHash backend session.db number
  | basicRef | storageRef | blockHashRef => exact ⟨fun _ => rfl, fun _ _ => rfl, fun _ => rfl⟩
  | storage address index =>
    refine ⟨fun other => ?_, fun other otherIndex => ?_, fun number => ?_⟩
    · rw [basic_fst, basic_fst, Session.next]
      cases missing : session.db.slot address index with
      | some entry =>
        unfold ForkDb.storage
        rw [missing]
      | none =>
        rw [basicRef_storage _ _ _ _ _ missing]
        by_cases same : other = address
        · rw [if_pos same, same, basicRef_eq]
          cases entry : session.db.accounts address with
          | none => rfl
          | some account => exact congrArg some (keeps missing account entry).symm
        · rw [if_neg same]
    · rw [storage_fst, storage_fst]
      exact storageRef_storage ..
    · rw [blockHash_fst, blockHash_fst, Session.next]
      unfold ForkDb.storage
      cases session.db.slot address index <;> rfl

/-- A step keeps the overlay exactly when it meets the condition. -/
theorem isOverlay_next_iff (overlay : IsOverlay backend initial session) :
    IsOverlay backend initial (session.next backend op) ↔ Keeps backend session op := by
  obtain ⟨basic, storage⟩ := isOverlay_iff.mp overlay
  cases op with
  | commit changes =>
    rw [isOverlay_iff, Session.next]
    constructor
    · rintro ⟨-, storage'⟩ address index clears
      obtain ⟨asked, committed⟩ := storageRef_commit_of_clears backend session.db _ _ _ clears
      rw [← asked, storage', overlayStorage_cons, committed, Option.getD_some]
    · intro keeps
      refine ⟨fun address => ?_, fun address index => ?_⟩
      · rw [basicRef_commit, overlayBasic_cons, basic]
        cases committedInfo changes address <;> rfl
      · rw [overlayStorage_cons]
        by_cases clears : Clears changes address index
        · obtain ⟨asked, committed⟩ := storageRef_commit_of_clears backend session.db _ _ _ clears
          rw [asked, committed, keeps address index clears, Option.getD_some]
        · rw [storageRef_commit _ _ _ _ _ clears, storage]
  | storage address index =>
    refine ⟨fun after missing account entry => ?_, fun keeps => ?_⟩
    · have replaced := (isOverlay_iff.mp after).1 address
      rw [Session.next, basicRef_storage _ _ _ _ _ missing, if_pos rfl, ← basic address,
        basicRef_eq, entry] at replaced
      exact (Option.some.inj replaced).symm
    · exact overlay.of_sameAnswers (sameAnswers_next (.storage address index) trivial keeps)
  | basic address =>
    exact iff_of_true (overlay.of_sameAnswers (sameAnswers_basic backend session.db address)) trivial
  | blockHash number =>
    exact iff_of_true (overlay.of_sameAnswers (sameAnswers_blockHash backend session.db number))
      trivial
  | basicRef | storageRef | blockHashRef => exact iff_of_true overlay trivial

end Steps

/-! ### The overlay -/

/-- In every run, a fork is an overlay in all states and its reads change no answer exactly when all
steps meet the condition. The two implementations agree in all states. -/
theorem overlay_iff (backend : Backend) (initial : CacheDb) (steps : List (Session × Op))
    (last : Session) (run : SessionRun backend initial steps last) :
    (Meets (fun session op => IsOverlay backend initial session
        ∧ (op.IsRead → SameAnswers backend (session.next backend op).db session.db)) steps
      ∧ IsOverlay backend initial last ↔ Meets (Keeps backend) steps)
    ∧ Meets (fun session _ => Agree backend session.db) steps ∧ Agree backend last.db := by
  refine ⟨⟨fun ⟨right, final⟩ => ?_, fun keeps => ?_⟩, fun _ _ => agree _ _, agree _ _⟩
  · refine run.meets_of_invariant ?_ (fun taken mem => (right taken mem).1) final
    rintro session op next overlay rfl after
    exact (isOverlay_next_iff overlay).mp after
  · obtain ⟨final, visited⟩ := run.invariant_of_meets (isOverlay_initial backend initial)
      (fun session op next overlay keeps taken => taken ▸ (isOverlay_next_iff overlay).mpr keeps)
      keeps
    exact ⟨fun taken mem => ⟨visited taken mem, fun isRead =>
      sameAnswers_next _ isRead (keeps taken mem)⟩, final⟩

/-- A fork on which every account has one wei and every slot is 7. -/
def sevenBackend : Backend where
  basic _ := ⟨1, 0, keccakEmpty, some []⟩
  storage _ _ := 7
  blockHash _ := 0

/-- The account of a pool. -/
def poolAccount : Address := 0xB4e16d0168e52d35CaCD2c6185b44281Ec28C9Dc

/-- A transaction that leaves the pool with two wei, and maybe destroys it. -/
def poolChanges (isSelfdestructed : Bool) : Changes := fun address =>
  if address = poolAccount then
    some {
      info := ⟨2, 0, keccakEmpty, some []⟩, storage := fun _ => none
      isTouched := true, isCreated := false, isSelfdestructed }
  else none

/-- The pool is paid and its info is read. -/
theorem overlay_iff_paid : ∃ steps last, SessionRun sevenBackend emptyDb steps last
    ∧ last.commits = [poolChanges false] ∧ IsOverlay sevenBackend emptyDb last := by
  have run : SessionRun sevenBackend emptyDb
      [(⟨emptyDb, []⟩, .commit (poolChanges false)), (_, .basic poolAccount)] _ :=
    (Run.nil.snoc rfl).snoc rfl
  have keeps : Meets (Keeps sevenBackend) [(⟨emptyDb, []⟩, .commit (poolChanges false)),
      (Session.next sevenBackend ⟨emptyDb, []⟩ (.commit (poolChanges false)), .basic poolAccount)] := by
    simp only [Meets, List.forall_mem_cons, List.not_mem_nil, false_implies, implies_true, and_true]
    refine ⟨fun address index clears => ?_, trivial⟩
    obtain ⟨account, changed, -, how⟩ := clears
    unfold poolChanges at changed
    split at changed
    · obtain rfl := Option.some.inj changed
      simp at how
    · exact absurd changed (by simp)
  exact ⟨_, _, run, rfl, ((overlay_iff _ _ _ _ run).1.mpr keeps).2⟩

/-- After a commit that pays the pool, fetching a slot brings back the balance of the fork; and after
a commit that destroys the pool, its slots are still those of the fork. -/
theorem not_isOverlay_pool :
    (∃ steps last, SessionRun sevenBackend emptyDb steps last
      ∧ steps.map Prod.snd = [.commit (poolChanges false), .storage poolAccount 0]
      ∧ (ForkDb.basic sevenBackend last.db poolAccount).1
        ≠ some (overlayBasic sevenBackend emptyDb last.commits poolAccount))
    ∧ ∃ steps last, SessionRun sevenBackend emptyDb steps last
      ∧ steps.map Prod.snd = [.commit (poolChanges true)]
      ∧ (ForkDb.storage sevenBackend last.db poolAccount 0).1
        ≠ overlayStorage sevenBackend emptyDb last.commits poolAccount 0 := by
  refine ⟨?_, ?_⟩
  · obtain ⟨steps, labels, run⟩ := Run.exists_of_labels (Session.next sevenBackend) ⟨emptyDb, []⟩
      [.commit (poolChanges false), .storage poolAccount 0]
    exact ⟨steps, _, run, labels, by decide +kernel⟩
  · obtain ⟨steps, labels, run⟩ := Run.exists_of_labels (Session.next sevenBackend) ⟨emptyDb, []⟩
      [.commit (poolChanges true)]
    exact ⟨steps, _, run, labels, by decide +kernel⟩

end Sando.ForkedDb
