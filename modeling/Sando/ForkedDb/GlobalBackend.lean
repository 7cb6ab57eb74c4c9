/-
The shared backend of the forks.

`GlobalBackend` answers the requests of all forks from one cache and fetches what is missing from the
provider. For each key there is a list of listeners in one of three maps and a future in
`pendingRequests`. A call of `poll` drains the queue, takes in what has arrived and polls the futures
from the last to the first, and starts over while something has arrived. `next` is one step of this
in any order; `poll_run` takes a call of `poll` apart into such steps. The channels of the requesters
are numbers, and the two logs hold what has been received and what has been sent.
-/

import Sando.Evm.Checked
import Sando.ForkedDb.CacheDb
import Sando.Program.Coalescing
import Sando.Program.Runs

namespace Sando.ForkedDb

open Sando.Evm Sando.Program CacheDb

variable {ε : Type}

/-! ### Requests and replies -/

/-- The channel on which one requester waits. -/
abbrev Sender := ℕ

/-- The request type the backend listens for. -/
inductive BackendFetchRequest
  /-- Fetch the account info. -/
  | basic (address : Address) (sender : Sender)
  /-- Fetch a storage slot. -/
  | storage (address : Address) (index : Word) (sender : Sender)
  /-- Fetch a block hash. -/
  | blockHash (number : Word) (sender : Sender)
  deriving DecidableEq

/-- The requests that are executed by the provider, by what they fetch. -/
inductive FetchRequestFuture
  | basic (address : Address)
  | storage (address : Address) (index : Word)
  | blockHash (number : Word)
  deriving DecidableEq

namespace BackendFetchRequest

/-- What a request asks for. -/
def key : BackendFetchRequest → FetchRequestFuture
  | basic address _ => .basic address
  | storage address index _ => .storage address index
  | blockHash number _ => .blockHash number

def sender : BackendFetchRequest → Sender
  | basic _ sender | storage _ _ sender | blockHash _ sender => sender

end BackendFetchRequest

/-- The request of a sender for a key. -/
def FetchRequestFuture.request : FetchRequestFuture → Sender → BackendFetchRequest
  | basic address => .basic address
  | storage address index => .storage address index
  | blockHash number => .blockHash number

inductive DatabaseError (ε : Type)
  | getAccount (address : Address) (err : ε)
  | getStorage (address : Address) (index : Word) (err : ε)
  | getBlockHash (number : Word) (err : ε)

/-- What is sent to a requester. -/
inductive Reply (ε : Type)
  | basic (result : Except (DatabaseError ε) AccountInfo)
  | storage (result : Except (DatabaseError ε) Word)
  | blockHash (result : Except (DatabaseError ε) Word)

def Reply.IsError : Reply ε → Prop
  | .basic (.error _) | .storage (.error _) | .blockHash (.error _) => True
  | _ => False

/-! ### The provider -/

/-- What the calls to the provider give at some moment, nothing while one is under way: the balance,
the nonce and the code of an account, a slot of it, and a block with its hash, if there is one. -/
structure Provider (ε : Type) where
  getAccount : Address → Option (Except ε (Word × Word × List Byte))
  getStorageAt : Address → Word → Option (Except ε Word)
  getBlock : BitVec 64 → Option (Except ε (Option (Option Word)))

namespace Provider

variable (provider : Provider ε)

/-! Polling a future fails when the future panics, as on a number that does not fit 64 bits, and gives nothing
while it is not ready. -/

def pollBasic (address : Address) : Option (Option (Except ε (Word × BitVec 64 × List Byte))) :=
  match provider.getAccount address with
  | none => some none
  | some (.error err) => some (some (.error err))
  | some (.ok (balance, nonce, code)) =>
    (asU64 nonce).map fun nonce => some (.ok (balance, nonce, code))

def pollStorage (address : Address) (index : Word) : Option (Option (Except ε Word)) :=
  some (provider.getStorageAt address index)

def pollBlockHash (number : Word) : Option (Option (Except ε Word)) :=
  (asU64 number).bind fun number =>
    match provider.getBlock number with
    | none => some none
    | some (.error err) => some (some (.error err))
    | some (.ok (some (some hash))) => some (some (.ok hash))
    -- empty block hash on mined block, this should never happen
    | some (.ok (some none)) => none
    -- if no block was returned then the block does not exist
    | some (.ok none) => some (some (.ok keccakEmpty))

end Provider

/-- The revm-style account info of what has been fetched. -/
def fetchedInfo (keccak256 : List Byte → Word) (balance : Word) (nonce : BitVec 64)
    (code : List Byte) : AccountInfo :=
  let (code, codeHash) := if code ≠ [] then (some code, keccak256 code) else (some [], keccakEmpty)
  { nonce, balance, code, codeHash }

/-! ### The backend -/

structure GlobalBackend (ε : Type) where
  db : CacheDb
  /-- Requests currently in progress. -/
  pendingRequests : List FetchRequestFuture
  /-- Listeners that wait for an account. -/
  accountRequests : Address → Option (List Sender)
  /-- Listeners that wait for a slot. -/
  storageRequests : Address × Word → Option (List Sender)
  /-- Listeners that wait for a block hash. -/
  blockRequests : Word → Option (List Sender)
  /-- Unprocessed queued requests. -/
  queuedRequests : List BackendFetchRequest
  received : List BackendFetchRequest
  sent : List (BackendFetchRequest × Reply ε)

namespace GlobalBackend

def new (initialDb : CacheDb) : GlobalBackend ε where
  db := initialDb
  pendingRequests := []
  accountRequests _ := none
  storageRequests _ := none
  blockRequests _ := none
  queuedRequests := []
  received := []
  sent := []

variable (backend : GlobalBackend ε)

def send (request : BackendFetchRequest) (reply : Reply ε) : GlobalBackend ε :=
  { backend with sent := backend.sent ++ [(request, reply)] }

/-- The entry of a key in its listener map. -/
def listeners : FetchRequestFuture → Option (List Sender)
  | .basic address => backend.accountRequests address
  | .storage address index => backend.storageRequests (address, index)
  | .blockHash number => backend.blockRequests number

def setListeners (key : FetchRequestFuture) (entry : Option (List Sender)) : GlobalBackend ε :=
  match key with
  | .basic address =>
    { backend with accountRequests := Function.update backend.accountRequests address entry }
  | .storage address index =>
    { backend with storageRequests := Function.update backend.storageRequests (address, index) entry }
  | .blockHash number =>
    { backend with blockRequests := Function.update backend.blockRequests number entry }

/-- Process a request for a key. -/
def enlist (key : FetchRequestFuture) (listener : Sender) : GlobalBackend ε :=
  match backend.listeners key with
  | some listeners => backend.setListeners key (some (listeners ++ [listener]))
  | none =>
    { backend.setListeners key (some [listener]) with
      pendingRequests := backend.pendingRequests ++ [key] }

def requestAccount (address : Address) (listener : Sender) : GlobalBackend ε :=
  backend.enlist (.basic address) listener

def requestAccountStorage (address : Address) (index : Word) (listener : Sender) :
    GlobalBackend ε :=
  backend.enlist (.storage address index) listener

def requestHash (number : Word) (listener : Sender) : GlobalBackend ε :=
  backend.enlist (.blockHash number) listener

/-- Answer a request from the cache, or fetch what it asks for. -/
def onRequest : BackendFetchRequest → GlobalBackend ε
  | .basic address sender =>
    match backend.db.accounts address with
    | some account => backend.send (.basic address sender) (.basic (.ok account.info))
    | none => backend.requestAccount address sender
  | .storage address index sender =>
    match backend.db.slot address index with
    | some value => backend.send (.storage address index sender) (.storage (.ok value))
    -- account present but not storage -> fetch storage
    | none => backend.requestAccountStorage address index sender
  | .blockHash number sender =>
    match backend.db.blockHashes number with
    | some hash => backend.send (.blockHash number sender) (.blockHash (.ok hash))
    | none => backend.requestHash number sender

/-- Notify all listeners of a key and remove them. -/
def notify (key : FetchRequestFuture) (reply : Reply ε) : GlobalBackend ε :=
  match backend.listeners key with
  | some listeners =>
    { backend.setListeners key none with
      sent := backend.sent ++ listeners.map fun listener => (key.request listener, reply) }
  | none => backend

/-- A future that is not ready is polled again. -/
def pushPending (request : FetchRequestFuture) : GlobalBackend ε :=
  { backend with pendingRequests := backend.pendingRequests ++ [request] }

/-- Poll the request at an index. Fails where the code panics. -/
def pollRequest (keccak256 : List Byte → Word) (n : ℕ) (provider : Provider ε) :
    Option (GlobalBackend ε) := do
  let (request, pendingRequests) ← swapRemove backend.pendingRequests n
  let backend := { backend with pendingRequests }
  match request with
  | .basic address =>
    match ← provider.pollBasic address with
    | some (.error err) =>
      return backend.notify (.basic address) (.basic (.error (.getAccount address err)))
    | some (.ok (balance, nonce, code)) =>
      let acc := fetchedInfo keccak256 balance nonce code
      -- update the cache
      let backend := { backend with db := backend.db.insertAccountInfo address acc }
      return backend.notify (.basic address) (.basic (.ok acc))
    | none => return backend.pushPending (.basic address)
  | .storage address index =>
    match ← provider.pollStorage address index with
    | some (.error err) =>
      return backend.notify (.storage address index)
        (.storage (.error (.getStorage address index err)))
    | some (.ok value) =>
      let backend := { backend with db := backend.db.insertAccountStorage address index value }
      return backend.notify (.storage address index) (.storage (.ok value))
    | none => return backend.pushPending (.storage address index)
  | .blockHash number =>
    match ← provider.pollBlockHash number with
    | some (.error err) =>
      return backend.notify (.blockHash number) (.blockHash (.error (.getBlockHash number err)))
    | some (.ok hash) =>
      let backend := { backend with db := backend.db.insertBlockHash number hash }
      return backend.notify (.blockHash number) (.blockHash (.ok hash))
    | none => return backend.pushPending (.blockHash number)

/-- Receive a new request. -/
def receive (request : BackendFetchRequest) : GlobalBackend ε :=
  { backend with
    queuedRequests := backend.queuedRequests ++ [request]
    received := backend.received ++ [request] }

/-! ### A call of poll -/

/-- Drain queued requests. -/
def drain (backend : GlobalBackend ε) : List BackendFetchRequest → GlobalBackend ε
  | [] => { backend with queuedRequests := [] }
  | request :: rest => drain ({ backend with queuedRequests := rest }.onRequest request) rest

/-- Poll the requests below an index, from the last to the first. -/
def pollPending (keccak256 : List Byte → Word) (providers : ℕ → Provider ε) :
    ℕ → GlobalBackend ε → Option (GlobalBackend ε)
  | 0, backend => some backend
  | n + 1, backend =>
    (backend.pollRequest keccak256 n (providers n)).bind (pollPending keccak256 providers n)

/-- What happens around one round of the loop: the requests that have arrived, and what the provider
gives when the request at an index is polled. -/
structure Round (ε : Type) where
  arrivals : List BackendFetchRequest
  providers : ℕ → Provider ε

/-- One round of the loop. -/
def round (keccak256 : List Byte → Word) (round : Round ε) : Option (GlobalBackend ε) :=
  let drained := backend.drain backend.queuedRequests
  let received := round.arrivals.foldl receive drained
  received.pollPending keccak256 round.providers received.pendingRequests.length

/-- A call of `poll` through some rounds. It goes on while something is queued. -/
def poll (keccak256 : List Byte → Word) : List (Round ε) → GlobalBackend ε → Option (GlobalBackend ε)
  | [], _ => none
  | round :: rounds, backend =>
    (backend.round keccak256 round).bind fun backend =>
      if backend.queuedRequests = [] then some backend else poll keccak256 rounds backend

/-! ### Steps -/

/-- One step of the backend, with what comes in from outside. -/
inductive Label (ε : Type)
  | receive (request : BackendFetchRequest)
  | handle
  | poll (n : ℕ) (provider : Provider ε)

/-- The state behind a step. None where there is nothing to do, and where the code panics. -/
def next (keccak256 : List Byte → Word) : Label ε → Option (GlobalBackend ε)
  | .receive request => some (backend.receive request)
  | .handle =>
    match backend.queuedRequests with
    | [] => none
    | request :: rest => some ({ backend with queuedRequests := rest }.onRequest request)
  | .poll n provider => backend.pollRequest keccak256 n provider

def Step (keccak256 : List Byte → Word) (backend : GlobalBackend ε) (label : Label ε)
    (after : GlobalBackend ε) : Prop :=
  backend.next keccak256 label = some after

end GlobalBackend

/-- A run of a new backend. -/
abbrev BackendRun (keccak256 : List Byte → Word) (initialDb : CacheDb) :
    List (GlobalBackend ε × GlobalBackend.Label ε) → GlobalBackend ε → Prop :=
  Run (GlobalBackend.Step keccak256) (.new initialDb)

/-! ### What the functions do -/

/-- The answer of the cache. -/
def CacheDb.cached (db : CacheDb) (ε : Type) : FetchRequestFuture → Option (Reply ε)
  | .basic address => (db.accounts address).map fun account => .basic (.ok account.info)
  | .storage address index => (db.slot address index).map fun value => .storage (.ok value)
  | .blockHash number => (db.blockHashes number).map fun hash => .blockHash (.ok hash)

/-- The cache behind a reply to a fetch. -/
def CacheDb.record (db : CacheDb) : FetchRequestFuture → Reply ε → CacheDb
  | .basic address, .basic (.ok info) => db.insertAccountInfo address info
  | .storage address index, .storage (.ok value) => db.insertAccountStorage address index value
  | .blockHash number, .blockHash (.ok hash) => db.insertBlockHash number hash
  | _, _ => db

/-- The reply to a fetch, when it is done. -/
def Provider.reply (keccak256 : List Byte → Word) (provider : Provider ε) :
    FetchRequestFuture → Option (Option (Reply ε))
  | .basic address => (provider.pollBasic address).map <| Option.map fun
    | .error err => .basic (.error (.getAccount address err))
    | .ok (balance, nonce, code) => .basic (.ok (fetchedInfo keccak256 balance nonce code))
  | .storage address index => (provider.pollStorage address index).map <| Option.map fun
    | .error err => .storage (.error (.getStorage address index err))
    | .ok value => .storage (.ok value)
  | .blockHash number => (provider.pollBlockHash number).map <| Option.map fun
    | .error err => .blockHash (.error (.getBlockHash number err))
    | .ok hash => .blockHash (.ok hash)

namespace Provider

/-- What polling the future of a key can give. -/
inductive Gives (keccak256 : List Byte → Word) (provider : Provider ε) :
    FetchRequestFuture → Option (Reply ε) → Prop
  | basicPending {address : Address} (calling : provider.getAccount address = none) :
      Gives keccak256 provider (.basic address) none
  | basicError {address : Address} {err : ε}
      (called : provider.getAccount address = some (.error err)) :
      Gives keccak256 provider (.basic address) (some (.basic (.error (.getAccount address err))))
  | basic {address : Address} {balance nonce : Word} {code : List Byte}
      (called : provider.getAccount address = some (.ok (balance, nonce, code))) :
      Gives keccak256 provider (.basic address)
        (some (.basic (.ok (fetchedInfo keccak256 balance (nonce.setWidth 64) code))))
  | storagePending {address : Address} {index : Word}
      (calling : provider.getStorageAt address index = none) :
      Gives keccak256 provider (.storage address index) none
  | storageError {address : Address} {index : Word} {err : ε}
      (called : provider.getStorageAt address index = some (.error err)) :
      Gives keccak256 provider (.storage address index)
        (some (.storage (.error (.getStorage address index err))))
  | storage {address : Address} {index value : Word}
      (called : provider.getStorageAt address index = some (.ok value)) :
      Gives keccak256 provider (.storage address index) (some (.storage (.ok value)))
  | blockHashPending {number : Word} (calling : provider.getBlock (number.setWidth 64) = none) :
      Gives keccak256 provider (.blockHash number) none
  | blockHashError {number : Word} {err : ε}
      (called : provider.getBlock (number.setWidth 64) = some (.error err)) :
      Gives keccak256 provider (.blockHash number)
        (some (.blockHash (.error (.getBlockHash number err))))
  | blockHash {number : Word} {hash : Option (Option Word)}
      (called : provider.getBlock (number.setWidth 64) = some (.ok hash)) (mined : hash ≠ some none) :
      Gives keccak256 provider (.blockHash number)
        (some (.blockHash (.ok ((hash.getD none).getD keccakEmpty))))

theorem gives_of_reply {keccak256 : List Byte → Word} {provider : Provider ε}
    {key : FetchRequestFuture} {ready : Option (Reply ε)}
    (polled : provider.reply keccak256 key = some ready) : provider.Gives keccak256 key ready := by
  unfold reply at polled
  cases key with
  | basic address =>
    obtain ⟨answer, awaited, rfl⟩ := Option.map_eq_some_iff.mp polled
    unfold pollBasic at awaited
    split at awaited
    · next calling =>
      obtain rfl := Option.some.inj awaited
      exact .basicPending calling
    · next called =>
      obtain rfl := Option.some.inj awaited
      exact .basicError called
    · next called =>
      obtain ⟨_, converted, rfl⟩ := Option.map_eq_some_iff.mp awaited
      obtain rfl := asU64_eq_some converted
      exact .basic called
  | storage address index =>
    obtain ⟨answer, awaited, rfl⟩ := Option.map_eq_some_iff.mp polled
    obtain rfl := Option.some.inj awaited
    rcases called : provider.getStorageAt address index with _ | _ | value
    · exact .storagePending called
    · exact .storageError called
    · exact .storage called
  | blockHash number =>
    obtain ⟨answer, awaited, rfl⟩ := Option.map_eq_some_iff.mp polled
    unfold pollBlockHash at awaited
    obtain ⟨_, converted, awaited⟩ := Option.bind_eq_some_iff.mp awaited
    obtain rfl := asU64_eq_some converted
    split at awaited
    · next calling =>
      obtain rfl := Option.some.inj awaited
      exact .blockHashPending calling
    · next called =>
      obtain rfl := Option.some.inj awaited
      exact .blockHashError called
    · next called =>
      obtain rfl := Option.some.inj awaited
      exact .blockHash called (by simp)
    · exact absurd awaited (by simp)
    · next called =>
      obtain rfl := Option.some.inj awaited
      exact .blockHash called (by simp)

end Provider

namespace GlobalBackend

variable {backend after : GlobalBackend ε} {keccak256 : List Byte → Word}

/-- A request is answered from the cache or waits for a fetch. -/
theorem onRequest_eq (backend : GlobalBackend ε) (request : BackendFetchRequest) :
    backend.onRequest request =
      match backend.db.cached ε request.key with
      | some reply => backend.send request reply
      | none => backend.enlist request.key request.sender := by
  cases request with
  | basic address sender =>
    simp only [onRequest, CacheDb.cached, BackendFetchRequest.key]
    cases backend.db.accounts address <;> rfl
  | storage address index sender =>
    simp only [onRequest, CacheDb.cached, BackendFetchRequest.key]
    cases backend.db.slot address index <;> rfl
  | blockHash number sender =>
    simp only [onRequest, CacheDb.cached, BackendFetchRequest.key]
    cases backend.db.blockHashes number <;> rfl

/-- A polled request that is ready is answered and removed; one that is not is polled again. -/
theorem pollRequest_eq (backend : GlobalBackend ε) (n : ℕ) (provider : Provider ε) :
    backend.pollRequest keccak256 n provider =
      (swapRemove backend.pendingRequests n).bind fun (key, pendingRequests) =>
        (provider.reply keccak256 key).map fun
          | some reply => { backend with
              pendingRequests, db := backend.db.record key reply }.notify key reply
          | none => { backend with pendingRequests }.pushPending key := by
  unfold pollRequest
  rcases swapRemove backend.pendingRequests n with _ | ⟨key, rest⟩
  · rfl
  cases key with
  | basic address =>
    simp only [bind, Option.bind_some, Provider.reply]
    rcases provider.pollBasic address with _ | _ | _ | ⟨balance, nonce, code⟩ <;> rfl
  | storage address index =>
    simp only [bind, Option.bind_some, Provider.reply]
    rcases provider.pollStorage address index with _ | _ | _ | value <;> rfl
  | blockHash number =>
    simp only [bind, Option.bind_some, Provider.reply]
    rcases provider.pollBlockHash number with _ | _ | _ | hash <;> rfl

/-- What a poll of a request does. -/
theorem pollRequest_cases {n : ℕ} {provider : Provider ε}
    (polled : backend.pollRequest keccak256 n provider = some after) :
    ∃ key rest, swapRemove backend.pendingRequests n = some (key, rest)
      ∧ (provider.reply keccak256 key = some none
          ∧ after = { backend with pendingRequests := rest }.pushPending key
        ∨ ∃ reply, provider.reply keccak256 key = some (some reply)
          ∧ after = { backend with
              pendingRequests := rest, db := backend.db.record key reply }.notify key reply) := by
  rw [pollRequest_eq] at polled
  obtain ⟨⟨key, rest⟩, removed, polled⟩ := Option.bind_eq_some_iff.mp polled
  obtain ⟨ready, called, rfl⟩ := Option.map_eq_some_iff.mp polled
  cases ready with
  | none => exact ⟨key, rest, removed, .inl ⟨called, rfl⟩⟩
  | some reply => exact ⟨key, rest, removed, .inr ⟨reply, called, rfl⟩⟩

/-- Handling takes the request at the front of the queue. -/
theorem handle_cases (handled : Step keccak256 backend .handle after) :
    ∃ request rest, backend.queuedRequests = request :: rest
      ∧ after = { backend with queuedRequests := rest }.onRequest request := by
  unfold Step next at handled
  rcases queued : backend.queuedRequests with _ | ⟨request, rest⟩
  · rw [queued] at handled
    exact absurd handled (by simp)
  · rw [queued] at handled
    exact ⟨request, rest, rfl, (Option.some.inj handled).symm⟩

/-! ### The listener maps -/

section Listeners

variable (backend) (key : FetchRequestFuture)

theorem listeners_setListeners (entry : Option (List Sender)) :
    (backend.setListeners key entry).listeners = Function.update backend.listeners key entry := by
  funext other
  cases key <;> cases other <;> simp [setListeners, listeners, Function.update_apply]

/-- Setting an entry leaves everything but the maps. -/
theorem frame_setListeners (entry : Option (List Sender)) :
    (backend.setListeners key entry).db = backend.db
    ∧ (backend.setListeners key entry).pendingRequests = backend.pendingRequests
    ∧ (backend.setListeners key entry).queuedRequests = backend.queuedRequests
    ∧ (backend.setListeners key entry).received = backend.received
    ∧ (backend.setListeners key entry).sent = backend.sent := by
  cases key <;> exact ⟨rfl, rfl, rfl, rfl, rfl⟩

theorem listeners_enlist (listener : Sender) :
    (backend.enlist key listener).listeners
      = Function.update backend.listeners key
          (some ((backend.listeners key).getD [] ++ [listener])) := by
  unfold enlist
  rcases backend.listeners key with _ | listeners
  · exact backend.listeners_setListeners key _
  · exact backend.listeners_setListeners key _

/-- A request waits, and starts a fetch when nobody waits for its key yet. -/
theorem frame_enlist (listener : Sender) :
    (backend.enlist key listener).db = backend.db
    ∧ (backend.enlist key listener).pendingRequests
      = (if backend.listeners key = none then backend.pendingRequests ++ [key]
        else backend.pendingRequests)
    ∧ (backend.enlist key listener).queuedRequests = backend.queuedRequests
    ∧ (backend.enlist key listener).received = backend.received
    ∧ (backend.enlist key listener).sent = backend.sent := by
  unfold enlist
  rcases backend.listeners key with _ | listeners
  · obtain ⟨db, -, queued, received, sent⟩ := backend.frame_setListeners key (some [listener])
    exact ⟨db, rfl, queued, received, sent⟩
  · exact backend.frame_setListeners key _

theorem listeners_notify (reply : Reply ε) :
    (backend.notify key reply).listeners = Function.update backend.listeners key none := by
  unfold notify
  split
  · exact backend.listeners_setListeners key none
  · next absent => rw [← absent, Function.update_eq_self]

/-- Notifying sends the reply to each listener, and leaves everything but the maps. -/
theorem frame_notify (reply : Reply ε) :
    (backend.notify key reply).db = backend.db
    ∧ (backend.notify key reply).pendingRequests = backend.pendingRequests
    ∧ (backend.notify key reply).queuedRequests = backend.queuedRequests
    ∧ (backend.notify key reply).received = backend.received
    ∧ (backend.notify key reply).sent = backend.sent
      ++ ((backend.listeners key).getD []).map fun listener => (key.request listener, reply) := by
  obtain ⟨db, pending, queued, received, -⟩ := backend.frame_setListeners key none
  unfold notify
  split
  · next listeners present => exact ⟨db, pending, queued, received, by rw [present]; rfl⟩
  · next absent => exact ⟨rfl, rfl, rfl, rfl, by simp [absent]⟩

end Listeners

/-! ### A call of poll is a run -/

section Poll

variable (keccak256)

theorem frame_onRequest (backend : GlobalBackend ε) (request : BackendFetchRequest) :
    (backend.onRequest request).queuedRequests = backend.queuedRequests
    ∧ (backend.onRequest request).received = backend.received := by
  rw [onRequest_eq]
  split
  · exact ⟨rfl, rfl⟩
  · obtain ⟨-, -, queued, received, -⟩ := backend.frame_enlist request.key request.sender
    exact ⟨queued, received⟩

theorem drain_run (requests : List BackendFetchRequest) (backend : GlobalBackend ε)
    (queued : backend.queuedRequests = requests) :
    ∃ steps, Run (Step keccak256) backend steps (backend.drain requests) := by
  induction requests generalizing backend with
  | nil =>
    unfold drain
    rw [← queued]
    exact ⟨[], Run.nil⟩
  | cons request rest ih =>
    obtain ⟨steps, run⟩ := ih ({ backend with queuedRequests := rest }.onRequest request)
      (frame_onRequest ..).1
    have handled : Step keccak256 backend .handle
        ({ backend with queuedRequests := rest }.onRequest request) := by
      unfold Step next
      rw [queued]
    exact ⟨_, (Run.nil.snoc handled).append run⟩

theorem receive_run (requests : List BackendFetchRequest) (backend : GlobalBackend ε) :
    ∃ steps, Run (Step keccak256) backend steps (requests.foldl receive backend) := by
  induction requests generalizing backend with
  | nil => exact ⟨[], Run.nil⟩
  | cons request rest ih =>
    obtain ⟨steps, run⟩ := ih (backend.receive request)
    have received : Step keccak256 backend (.receive request) (backend.receive request) := rfl
    exact ⟨_, (Run.nil.snoc received).append run⟩

theorem pollPending_run (providers : ℕ → Provider ε) (n : ℕ) (backend : GlobalBackend ε)
    (polled : pollPending keccak256 providers n backend = some after) :
    ∃ steps, Run (Step keccak256) backend steps after := by
  induction n generalizing backend with
  | zero =>
    obtain rfl := Option.some.inj polled
    exact ⟨[], Run.nil⟩
  | succ n ih =>
    obtain ⟨middle, first, rest⟩ := Option.bind_eq_some_iff.mp polled
    obtain ⟨steps, run⟩ := ih middle rest
    have taken : Step keccak256 backend (.poll n (providers n)) middle := first
    exact ⟨_, (Run.nil.snoc taken).append run⟩

/-- The requests taken in, before the futures are polled. -/
theorem arrivals_run (backend : GlobalBackend ε) (arrivals : List BackendFetchRequest) :
    ∃ steps, Run (Step keccak256) backend steps
      (arrivals.foldl receive (backend.drain backend.queuedRequests)) := by
  obtain ⟨_, drained⟩ := drain_run keccak256 backend.queuedRequests backend rfl
  obtain ⟨_, received⟩ := receive_run keccak256 arrivals (backend.drain backend.queuedRequests)
  exact ⟨_, drained.append received⟩

theorem round_run (backend : GlobalBackend ε) (round : Round ε)
    (taken : backend.round keccak256 round = some after) :
    ∃ steps, Run (Step keccak256) backend steps after := by
  obtain ⟨_, arrived⟩ := arrivals_run keccak256 backend round.arrivals
  obtain ⟨_, polled⟩ := pollPending_run keccak256 _ _ _ taken
  exact ⟨_, arrived.append polled⟩

/-- A call of `poll` is a run of steps. -/
theorem poll_run (rounds : List (Round ε)) (backend : GlobalBackend ε)
    (polled : poll keccak256 rounds backend = some after) :
    ∃ steps, Run (Step keccak256) backend steps after := by
  induction rounds generalizing backend with
  | nil => exact absurd polled (by simp [poll])
  | cons round rounds ih =>
    obtain ⟨middle, first, rest⟩ := Option.bind_eq_some_iff.mp polled
    obtain ⟨_, run⟩ := round_run keccak256 backend round first
    by_cases idle : middle.queuedRequests = []
    · rw [if_pos idle] at rest
      obtain rfl := Option.some.inj rest
      exact ⟨_, run⟩
    · rw [if_neg idle] at rest
      obtain ⟨_, others⟩ := ih middle rest
      exact ⟨_, run.append others⟩

end Poll

end GlobalBackend

end Sando.ForkedDb
