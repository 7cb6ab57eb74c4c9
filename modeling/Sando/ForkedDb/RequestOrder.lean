/-
Answers that do not depend on the order of requests.

With a provider that gives one fixed answer for each key, a reply should be what the initial database
knows and otherwise what the provider says (`expected`), whatever the order of requests and
completions. For slots and block hashes this is so. A slot that arrives for an account without an entry
makes a default entry, and from then on the cache answers requests for the info of that account
with the default one. `Harmless` is the condition on a completion under which this does not
happen, and `rightFor_iff` proves that the runs in which all answers are right are those whose steps
all meet it.
-/

import Sando.ForkedDb.Deduplication

namespace Sando.ForkedDb

open Sando.Evm Sando.Program CacheDb GlobalBackend

variable {ε : Type} {keccak256 : List Byte → Word}

/-! ### Fixed answers -/

/-- One answer for each key: the balance, the nonce and the code of an account, a slot of it, and a
block with its hash, if there is one. -/
structure FixedAnswers where
  account : Address → Word × Word × List Byte
  storageAt : Address → Word → Word
  block : BitVec 64 → Option (Option Word)

namespace FixedAnswers

variable (fixed : FixedAnswers)

/-- The info of an account. -/
def info (keccak256 : List Byte → Word) (address : Address) : AccountInfo :=
  let (balance, nonce, code) := fixed.account address
  fetchedInfo keccak256 balance (nonce.setWidth 64) code

/-- The hash of a block, and the empty hash when there is none. -/
def hash (number : Word) : Word :=
  ((fixed.block (number.setWidth 64)).getD none).getD keccakEmpty

def reply (keccak256 : List Byte → Word) : FetchRequestFuture → Reply ε
  | .basic address => .basic (.ok (fixed.info keccak256 address))
  | .storage address index => .storage (.ok (fixed.storageAt address index))
  | .blockHash number => .blockHash (.ok (fixed.hash number))

end FixedAnswers

/-- A provider gives nothing but the fixed answers, and errors. -/
structure Provider.Agrees (provider : Provider ε) (fixed : FixedAnswers) : Prop where
  account : ∀ address answer, provider.getAccount address = some (.ok answer)
    → answer = fixed.account address
  storageAt : ∀ address index value, provider.getStorageAt address index = some (.ok value)
    → value = fixed.storageAt address index
  block : ∀ number block, provider.getBlock number = some (.ok block) → block = fixed.block number

def GlobalBackend.Label.Agrees (fixed : FixedAnswers) : Label ε → Prop
  | .poll _ provider => provider.Agrees fixed
  | _ => True

/-- The reply to a request for a key: what the initial database knows, and else the fixed answer. -/
def expected (keccak256 : List Byte → Word) (fixed : FixedAnswers) (initialDb : CacheDb)
    (key : FetchRequestFuture) : Reply ε :=
  (initialDb.cached ε key).getD (fixed.reply keccak256 key)

/-- The successful replies to requests for some keys are the expected ones. `cached` goes beyond what is
asked for: what the cache would answer is right too, which makes the condition on the steps necessary. -/
structure RightFor (keys : FetchRequestFuture → Prop) (keccak256 : List Byte → Word)
    (fixed : FixedAnswers) (initialDb : CacheDb) (backend : GlobalBackend ε) : Prop where
  sent : ∀ answer ∈ backend.sent, keys answer.1.key → ¬ answer.2.IsError
    → answer.2 = expected keccak256 fixed initialDb answer.1.key
  cached : ∀ key, keys key → ∀ reply, backend.db.cached ε key = some reply
    → reply = expected keccak256 fixed initialDb key

def FetchRequestFuture.IsBasic : FetchRequestFuture → Prop
  | .basic _ => True
  | _ => False

/-- A slot of an account arrives while the account has no entry. -/
def ArrivesFirst (backend : GlobalBackend ε) (address : Address) : Label ε → Prop
  | .poll n provider => ∃ index value, backend.pendingRequests[n]? = some (.storage address index)
      ∧ provider.getStorageAt address index = some (.ok value) ∧ backend.db.accounts address = none
  | _ => False

/-- A slot arrives first only for an account whose info is the default one. -/
def Harmless (keccak256 : List Byte → Word) (fixed : FixedAnswers) (backend : GlobalBackend ε)
    (label : Label ε) : Prop :=
  ∀ address, ArrivesFirst backend address label → fixed.info keccak256 address = .default

/-! ### The cache -/

namespace CacheDb

variable (db : CacheDb) (address : Address) (index value number hash : Word) (info : AccountInfo)
  (key : FetchRequestFuture)

theorem cached_insertAccountInfo :
    (db.insertAccountInfo address info).cached ε key
      = if key = .basic address then some (.basic (.ok info)) else db.cached ε key := by
  cases key with
  | basic other =>
    by_cases same : other = address
    · subst same
      simp [cached]
    · simp [cached, same, accounts_insertAccountInfo_of_ne]
  | storage other index => simp [cached]
  | blockHash number => simp [cached, insertAccountInfo, setAccount]

/-- A slot of an account without an entry makes a default one. -/
theorem cached_insertAccountStorage :
    (db.insertAccountStorage address index value).cached ε key
      = if key = .storage address index then some (.storage (.ok value))
        else if key = .basic address ∧ db.accounts address = none then some (.basic (.ok .default))
        else db.cached ε key := by
  cases key with
  | basic other =>
    by_cases same : other = address
    · subst same
      cases entry : db.accounts other <;>
        simp [cached, entry, loadAccount, DbAccount.newNotExisting, DbAccount.default]
    · simp [cached, same, accounts_insertAccountStorage_of_ne]
  | storage other otherIndex =>
    simp only [cached, slot_insertAccountStorage, FetchRequestFuture.storage.injEq, reduceCtorEq,
      false_and, if_false]
    split <;> rfl
  | blockHash number => simp [cached, insertAccountStorage, setAccount]

theorem cached_insertBlockHash :
    (db.insertBlockHash number hash).cached ε key
      = if key = .blockHash number then some (.blockHash (.ok hash)) else db.cached ε key := by
  cases key with
  | basic address => simp [cached, insertBlockHash]
  | storage address index => simp [cached, insertBlockHash, slot]
  | blockHash other =>
    by_cases same : other = number
    · subst same
      simp [cached, insertBlockHash]
    · simp [cached, insertBlockHash, same]

end CacheDb

/-! ### Steps -/

section Steps

variable {fixed : FixedAnswers} {initialDb : CacheDb} {backend after : GlobalBackend ε}
  {label : Label ε} {keys : FetchRequestFuture → Prop}

/-- Nothing is fetched that the initial database knows, and nothing is forgotten. -/
structure Kept (initialDb : CacheDb) (backend : GlobalBackend ε) : Prop where
  pending : ∀ key ∈ backend.pendingRequests, initialDb.cached ε key = none
  known : ∀ key, backend.db.cached ε key = none → initialDb.cached ε key = none

/-- A reply forgets nothing. -/
theorem cached_record_eq_none {db : CacheDb} {key other : FetchRequestFuture} {reply : Reply ε}
    (unknown : (db.record key reply).cached ε other = none) : db.cached ε other = none := by
  by_contra known
  unfold CacheDb.record at unknown
  split at unknown
  · rw [cached_insertAccountInfo] at unknown
    split at unknown
    · exact absurd unknown (by simp)
    · exact known unknown
  · rw [cached_insertAccountStorage] at unknown
    split at unknown
    · exact absurd unknown (by simp)
    · split at unknown
      · exact absurd unknown (by simp)
      · exact known unknown
  · rw [cached_insertBlockHash] at unknown
    split at unknown
    · exact absurd unknown (by simp)
    · exact known unknown
  · exact known unknown

theorem Kept.step (kept : Kept initialDb backend) (step : Step keccak256 backend label after) :
    Kept initialDb after := by
  cases label with
  | receive request =>
    obtain rfl := Option.some.inj step
    exact ⟨kept.pending, kept.known⟩
  | handle =>
    obtain ⟨request, rest, -, rfl⟩ := handle_cases step
    rw [onRequest_eq]
    split
    · exact ⟨kept.pending, kept.known⟩
    · next unknown =>
      obtain ⟨db, pending, -⟩ :=
        frame_enlist { backend with queuedRequests := rest } request.key request.sender
      refine ⟨fun key mem => ?_, fun key unknown => kept.known key (db ▸ unknown)⟩
      rw [pending] at mem
      split at mem
      · rcases List.mem_append.mp mem with earlier | same
        · exact kept.pending key earlier
        · obtain rfl := List.mem_singleton.mp same
          exact kept.known _ unknown
      · exact kept.pending key mem
  | poll n provider =>
    obtain ⟨key, rest, removed, ⟨-, rfl⟩ | ⟨reply, -, rfl⟩⟩ := pollRequest_cases step
    · have same := (List.perm_append_singleton key rest).trans (swapRemove_perm removed)
      exact ⟨fun other mem => kept.pending other (same.subset mem), kept.known⟩
    · obtain ⟨db, pending, -⟩ := frame_notify
        { backend with pendingRequests := rest, db := backend.db.record key reply } key reply
      refine ⟨fun other mem => ?_, fun other unknown => ?_⟩
      · rw [pending] at mem
        exact kept.pending other ((swapRemove_perm removed).subset (List.mem_cons_of_mem key mem))
      · rw [db] at unknown
        exact kept.known other (cached_record_eq_none unknown)

/-- A reply that is right or an error leaves it to the cache whether the answers are right. -/
theorem rightFor_notify_iff (right : RightFor keys keccak256 fixed initialDb backend)
    {key : FetchRequestFuture} {reply : Reply ε} {rest : List FetchRequestFuture} {db : CacheDb}
    (success : ¬ reply.IsError → reply = expected keccak256 fixed initialDb key) :
    RightFor keys keccak256 fixed initialDb
        ({ backend with pendingRequests := rest, db }.notify key reply)
      ↔ ∀ other, keys other → ∀ known, db.cached ε other = some known
        → known = expected keccak256 fixed initialDb other := by
  obtain ⟨same, -, -, -, sent⟩ := frame_notify { backend with pendingRequests := rest, db } key reply
  refine ⟨fun after => ?_, fun cached => ⟨fun answer mem asked fine => ?_, ?_⟩⟩
  · have cached := after.cached
    rw [same] at cached
    exact cached
  · rw [sent] at mem
    rcases List.mem_append.mp mem with earlier | here
    · exact right.sent answer earlier asked fine
    · obtain ⟨listener, -, rfl⟩ := List.mem_map.mp here
      rw [key.key_request]
      exact success fine
  · rw [same]
    exact cached

theorem expected_of_unknown (kept : Kept initialDb backend) {key : FetchRequestFuture}
    (unknown : backend.db.cached ε key = none) :
    expected keccak256 fixed initialDb key = (fixed.reply keccak256 key : Reply ε) := by
  rw [expected, kept.known key unknown, Option.getD_none]

theorem unknown_of_absent {db : CacheDb} {address : Address} (absent : db.accounts address = none) :
    db.cached ε (.basic address) = none := by
  rw [CacheDb.cached, absent, Option.map_none]

/-- A fetched value that is right leaves the answers of the cache right, but for the default entry that a
slot makes. -/
theorem cached_record_iff (right : RightFor keys keccak256 fixed initialDb backend)
    (kept : Kept initialDb backend) {provider : Provider ε} (agrees : provider.Agrees fixed)
    {key : FetchRequestFuture} {reply : Reply ε} (gives : provider.Gives keccak256 key (some reply))
    (fetched : initialDb.cached ε key = none) :
    (¬ reply.IsError → reply = expected keccak256 fixed initialDb key)
    ∧ ((∀ other, keys other → ∀ known, (backend.db.record key reply).cached ε other = some known
        → known = expected keccak256 fixed initialDb other)
      ↔ ∀ address index value, key = .storage address index
        → provider.getStorageAt address index = some (.ok value)
        → backend.db.accounts address = none → keys (.basic address)
        → fixed.info keccak256 address = .default) := by
  have asked : expected keccak256 fixed initialDb key = (fixed.reply keccak256 key : Reply ε) := by
    rw [expected, fetched, Option.getD_none]
  cases gives with
  | basicError | blockHashError =>
    exact ⟨fun fine => absurd trivial fine, iff_of_true right.cached (by simp)⟩
  | storageError called =>
    refine ⟨fun fine => absurd trivial fine, iff_of_true right.cached ?_⟩
    rintro _ _ _ ⟨rfl, rfl⟩ arrived
    exact absurd (called.symm.trans arrived) (by simp)
  | @basic address balance nonce code called =>
    have info : fixed.info keccak256 address
        = fetchedInfo keccak256 balance (nonce.setWidth 64) code := by
      rw [FixedAnswers.info, ← agrees.account _ _ called]
    rw [asked, FixedAnswers.reply, info]
    refine ⟨fun _ => rfl, iff_of_true (fun other among known answer => ?_) (by simp)⟩
    rw [CacheDb.record, cached_insertAccountInfo] at answer
    split at answer
    · next same =>
      obtain rfl := Option.some.inj answer
      rw [same, asked, FixedAnswers.reply, info]
    · exact right.cached other among known answer
  | @storage address index value called =>
    obtain rfl := agrees.storageAt _ _ _ called
    refine ⟨fun _ => asked.symm, ⟨fun after => ?_, fun harmless other among known answer => ?_⟩⟩
    · rintro _ _ _ ⟨rfl, rfl⟩ - absent among
      have made := after (.basic address) among (.basic (.ok .default)) (by
        rw [CacheDb.record, cached_insertAccountStorage, if_neg (by simp), if_pos ⟨rfl, absent⟩])
      rw [expected_of_unknown kept (unknown_of_absent absent)] at made
      simpa [FixedAnswers.reply] using made.symm
    · rw [CacheDb.record, cached_insertAccountStorage] at answer
      split at answer
      · next same =>
        obtain rfl := Option.some.inj answer
        rw [same, asked, FixedAnswers.reply]
      · split at answer
        · next made =>
          obtain ⟨rfl, absent⟩ := made
          obtain rfl := Option.some.inj answer
          rw [expected_of_unknown kept (unknown_of_absent absent), FixedAnswers.reply,
            harmless address index _ rfl called absent among]
        · exact right.cached other among known answer
  | @blockHash number hash called mined =>
    obtain rfl := agrees.block _ _ called
    refine ⟨fun _ => asked.symm, iff_of_true (fun other among known answer => ?_) (by simp)⟩
    rw [CacheDb.record, cached_insertBlockHash] at answer
    split at answer
    · next same =>
      obtain rfl := Option.some.inj answer
      rw [same, asked, FixedAnswers.reply, FixedAnswers.hash]
    · exact right.cached other among known answer

/-- A step keeps the answers right exactly when no slot arrives first for an account whose info is not
the default one. -/
theorem rightFor_step_iff (right : RightFor keys keccak256 fixed initialDb backend)
    (kept : Kept initialDb backend) (step : Step keccak256 backend label after)
    (agrees : label.Agrees fixed) : RightFor keys keccak256 fixed initialDb after
      ↔ ∀ address, keys (.basic address) → ArrivesFirst backend address label
        → fixed.info keccak256 address = .default := by
  cases label with
  | receive request =>
    obtain rfl := Option.some.inj step
    exact iff_of_true ⟨right.sent, right.cached⟩ fun _ _ arrives => arrives.elim
  | handle =>
    refine iff_of_true ?_ fun _ _ arrives => arrives.elim
    obtain ⟨request, rest, -, rfl⟩ := handle_cases step
    rw [onRequest_eq]
    split
    · next reply known =>
      refine ⟨fun answer mem asked fine => ?_, right.cached⟩
      rcases List.mem_append.mp mem with earlier | here
      · exact right.sent answer earlier asked fine
      · obtain rfl := List.mem_singleton.mp here
        exact right.cached _ asked _ known
    · obtain ⟨db, -, -, -, sent⟩ :=
        frame_enlist { backend with queuedRequests := rest } request.key request.sender
      refine ⟨?_, ?_⟩
      · rw [sent]
        exact right.sent
      · rw [db]
        exact right.cached
  | poll n provider =>
    obtain ⟨key, rest, removed, ⟨called, rfl⟩ | ⟨reply, called, rfl⟩⟩ := pollRequest_cases step
    · refine iff_of_true ⟨right.sent, right.cached⟩ ?_
      rintro address - ⟨index, value, polled, arrived, -⟩
      rw [swapRemove_item removed] at polled
      obtain rfl := Option.some.inj polled
      cases Provider.gives_of_reply called with
      | storagePending calling => exact absurd (calling.symm.trans arrived) (by simp)
    · have pending : key ∈ backend.pendingRequests :=
        (swapRemove_perm removed).subset List.mem_cons_self
      obtain ⟨success, cached⟩ := cached_record_iff right kept agrees
        (Provider.gives_of_reply called) (kept.pending key pending)
      rw [rightFor_notify_iff right success, cached]
      constructor
      · rintro harmless address among ⟨index, value, polled, arrived, absent⟩
        rw [swapRemove_item removed] at polled
        exact harmless address index value (Option.some.inj polled) arrived absent among
      · rintro harmless address index value rfl arrived absent among
        exact harmless address among ⟨index, value, swapRemove_item removed, arrived, absent⟩

end Steps

/-! ### Every run -/

/-- All successful replies so far are right, and so is what the cache would answer. -/
abbrev AnswersRight (keccak256 : List Byte → Word) (fixed : FixedAnswers) (initialDb : CacheDb)
    (backend : GlobalBackend ε) : Prop :=
  RightFor (fun _ => True) keccak256 fixed initialDb backend

theorem answersRight_step_iff {fixed : FixedAnswers} {initialDb : CacheDb}
    {backend after : GlobalBackend ε} {label : Label ε}
    (right : AnswersRight keccak256 fixed initialDb backend) (kept : Kept initialDb backend)
    (step : Step keccak256 backend label after) (agrees : label.Agrees fixed) :
    AnswersRight keccak256 fixed initialDb after ↔ Harmless keccak256 fixed backend label := by
  rw [AnswersRight, rightFor_step_iff right kept step agrees]
  exact ⟨fun harmless address => harmless address trivial, fun harmless address _ => harmless address⟩

theorem kept_new (initialDb : CacheDb) : Kept initialDb (.new initialDb : GlobalBackend ε) :=
  ⟨fun _ mem => absurd mem List.not_mem_nil, fun _ unknown => unknown⟩

theorem rightFor_new (keys : FetchRequestFuture → Prop) (keccak256 : List Byte → Word)
    (fixed : FixedAnswers) (initialDb : CacheDb) :
    RightFor keys keccak256 fixed initialDb (.new initialDb : GlobalBackend ε) where
  sent _ mem := absurd mem List.not_mem_nil
  cached key _ reply known := by
    rw [expected]
    exact (Option.getD_eq_iff.mpr (.inl known)).symm

section Runs

variable {fixed : FixedAnswers} {initialDb : CacheDb} {steps : List (GlobalBackend ε × Label ε)}
  {last : GlobalBackend ε}

/-- A run whose slots arrive first only for accounts outside the keys, or with the default info, keeps the
answers to the keys right. -/
theorem rightFor_run (keys : FetchRequestFuture → Prop) (run : BackendRun keccak256 initialDb steps last)
    (agrees : Meets (fun _ label => label.Agrees fixed) steps)
    (harmless : Meets (fun backend label => ∀ address, keys (.basic address)
      → ArrivesFirst backend address label → fixed.info keccak256 address = .default) steps) :
    RightFor keys keccak256 fixed initialDb last
      ∧ Meets (fun backend _ => RightFor keys keccak256 fixed initialDb backend) steps := by
  have keeps (backend : GlobalBackend ε) (label : Label ε) (after : GlobalBackend ε)
      (before : Kept initialDb backend ∧ RightFor keys keccak256 fixed initialDb backend)
      (harmless : ∀ address, keys (.basic address) → ArrivesFirst backend address label
        → fixed.info keccak256 address = .default)
      (taken : label.Agrees fixed ∧ Step keccak256 backend label after) :
      Kept initialDb after ∧ RightFor keys keccak256 fixed initialDb after :=
    ⟨before.1.step taken.2, (rightFor_step_iff before.2 before.1 taken.2 taken.1).mpr harmless⟩
  obtain ⟨⟨-, right⟩, visited⟩ := (run.restrict agrees).invariant_of_meets
    ⟨kept_new initialDb, rightFor_new ..⟩ keeps harmless
  exact ⟨right, fun taken mem => (visited taken mem).2⟩

/-- When slots arrive first only for accounts with the default info, every successful reply is what the
initial database knows, and else the fixed answer. -/
theorem sent_expected (run : BackendRun keccak256 initialDb steps last)
    (agrees : Meets (fun _ label => label.Agrees fixed) steps)
    (harmless : Meets (Harmless keccak256 fixed) steps) :
    ∀ answer ∈ last.sent, ¬ answer.2.IsError
      → answer.2 = expected keccak256 fixed initialDb answer.1.key := by
  have right := (rightFor_run (fun _ => True) run agrees
    fun taken mem address _ => harmless taken mem address).1
  exact fun answer mem => right.sent answer mem trivial

/-- In every run with fixed answers, the replies with slots and block hashes are right; and all answers
are right in all states exactly when no slot arrives first for an account whose info is not the
default one. -/
theorem rightFor_iff (keccak256 : List Byte → Word) (fixed : FixedAnswers) (initialDb : CacheDb)
    (steps : List (GlobalBackend ε × Label ε)) (last : GlobalBackend ε)
    (run : BackendRun keccak256 initialDb steps last)
    (agrees : Meets (fun _ label => label.Agrees fixed) steps) :
    (∀ answer ∈ last.sent, ¬ answer.1.key.IsBasic → ¬ answer.2.IsError
      → answer.2 = expected keccak256 fixed initialDb answer.1.key)
    ∧ (Meets (fun backend _ => AnswersRight keccak256 fixed initialDb backend) steps
        ∧ AnswersRight keccak256 fixed initialDb last
      ↔ Meets (Harmless keccak256 fixed) steps) := by
  refine ⟨?_, ⟨fun ⟨visited, final⟩ => ?_, fun harmless => ?_⟩⟩
  · exact (rightFor_run (¬ ·.IsBasic) run agrees fun _ _ _ basic => absurd trivial basic).1.sent
  · have run := run.restrict agrees
    obtain ⟨kept, always⟩ := run.invariant (kept_new initialDb)
      fun backend label after kept taken => Kept.step kept taken.2
    have both : Meets (fun backend _ => Kept initialDb backend
        ∧ AnswersRight keccak256 fixed initialDb backend) steps :=
      fun taken mem => ⟨always taken mem, visited taken mem⟩
    refine run.meets_of_invariant ?_ both ⟨kept, final⟩
    rintro backend label after ⟨kept, right⟩ ⟨agrees, step⟩ ⟨-, after⟩
    exact (answersRight_step_iff right kept step agrees).mp after
  · exact (rightFor_run (fun _ => True) run agrees
      fun taken mem address _ => harmless taken mem address).symm

end Runs

/-- Every account has one wei, and every slot is 7. -/
def sevenAnswers : FixedAnswers where
  account _ := (1, 0, [])
  storageAt _ _ := 7
  block _ := none

/-- A provider that answers at once. -/
def sevenProvider : Provider Unit where
  getAccount _ := some (.ok (1, 0, []))
  getStorageAt _ _ := some (.ok 7)
  getBlock _ := some (.ok none)

theorem sevenProvider_agrees : sevenProvider.Agrees sevenAnswers where
  account _ _ answer := (Except.ok.inj (Option.some.inj answer)).symm
  storageAt _ _ _ answer := (Except.ok.inj (Option.some.inj answer)).symm
  block _ _ answer := (Except.ok.inj (Option.some.inj answer)).symm

/-- A slot of the token is asked for and fetched. -/
theorem rightFor_iff_usdc :
    ∃ (steps : List (GlobalBackend Unit × Label Unit)) (last : GlobalBackend Unit),
      BackendRun (fun _ => 0) emptyDb steps last
      ∧ last.sent.map Prod.fst = [.storage usdcAccount 3 0]
      ∧ ∀ answer ∈ last.sent, ¬ answer.1.key.IsBasic → ¬ answer.2.IsError
        → answer.2 = expected (fun _ => 0) sevenAnswers emptyDb answer.1.key := by
  obtain ⟨steps, labels, run⟩ := Run.exists_of_foldlM (GlobalBackend.next · (fun _ => 0))
    (.new emptyDb) _ [.receive (.storage usdcAccount 3 0), .handle, .poll 0 sevenProvider] rfl
  have agrees : Meets (fun _ label => label.Agrees sevenAnswers) steps := by
    refine meets_of_labels ?_
    rw [labels]
    simp only [List.forall_mem_cons, List.not_mem_nil, false_implies, implies_true, and_true]
    exact ⟨trivial, trivial, sevenProvider_agrees⟩
  exact ⟨steps, _, run, rfl, (rightFor_iff _ _ _ _ _ run agrees).1⟩

/-- Once a slot of the token has been fetched, a request for its info is answered with no balance. -/
theorem not_answersRight_usdc :
    ∃ (steps : List (GlobalBackend Unit × Label Unit)) (last : GlobalBackend Unit),
      BackendRun (fun _ => 0) emptyDb steps last
      ∧ Meets (fun _ label => label.Agrees sevenAnswers) steps
      ∧ ∃ answer ∈ last.sent, answer.1 = .basic usdcAccount 1 ∧ ¬ answer.2.IsError
        ∧ answer.2 ≠ expected (fun _ => 0) sevenAnswers emptyDb answer.1.key := by
  obtain ⟨steps, labels, run⟩ := Run.exists_of_foldlM (GlobalBackend.next · (fun _ => 0))
    (.new emptyDb) _ [.receive (.storage usdcAccount 3 0), .handle, .poll 0 sevenProvider,
      .receive (.basic usdcAccount 1), .handle] rfl
  have agrees : Meets (fun _ label => label.Agrees sevenAnswers) steps := by
    refine meets_of_labels ?_
    rw [labels]
    simp only [List.forall_mem_cons, List.not_mem_nil, false_implies, implies_true, and_true]
    exact ⟨trivial, trivial, sevenProvider_agrees, trivial, trivial⟩
  refine ⟨steps, _, run, agrees, (.basic usdcAccount 1, .basic (.ok .default)),
    List.mem_cons_of_mem _ List.mem_cons_self, rfl, id, fun same => ?_⟩
  have info : AccountInfo.default = sevenAnswers.info (fun _ => 0) usdcAccount :=
    Except.ok.inj (Reply.basic.inj same)
  exact absurd info (by decide)

end Sando.ForkedDb
