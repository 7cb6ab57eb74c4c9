/-
Forks that share one backend.

`ForkFactory` and the forks it makes hold a database each and the sending half of one channel. An
operation that misses something sends a request with a channel for the reply and blocks until the
reply is there; meanwhile the other clients and the backend go on in any order. `ForkSystem.next` is one
step of the whole. `Operation.perform` is what an operation is for: the same operation over a backend
that answers at once. `Served` says how a finished operation may differ from that, which it does only
when the backend answered with an error.
-/

import Sando.ForkedDb.ForkDb
import Sando.ForkedDb.RequestOrder

namespace Sando.ForkedDb

open Sando.Evm Sando.Program CacheDb

variable {ε : Type}

/-! ### Operations -/

/-- An operation on a fork, or on the factory. -/
inductive Operation
  | fork (op : Op)
  | insertAccountInfo (address : Address) (info : AccountInfo)
  | insertAccountStorage (address : Address) (slot value : Word)

/-- What an operation returns. -/
inductive Value
  | info (info : Option AccountInfo)
  | word (word : Word)
  | unit
  deriving DecidableEq

/-- What an operation returns, and the database behind it, when the backend answers at once. -/
def Operation.perform (backend : Backend) (db : CacheDb) : Operation → Value × CacheDb
  | .fork (.commit changes) => (.unit, db.commit changes)
  | .fork (.basic address) =>
    let (info, db) := ForkDb.basic backend db address
    (.info info, db)
  | .fork (.storage address index) =>
    let (value, db) := ForkDb.storage backend db address index
    (.word value, db)
  | .fork (.blockHash number) =>
    let (hash, db) := ForkDb.blockHash backend db number
    (.word hash, db)
  | .fork (.basicRef address) => (.info (ForkDb.basicRef backend db address), db)
  | .fork (.storageRef address index) => (.word (ForkDb.storageRef backend db address index), db)
  | .fork (.blockHashRef number) => (.word (ForkDb.blockHashRef backend number), db)
  | .insertAccountInfo address info => (.unit, ForkFactory.insertAccountInfo db address info)
  | .insertAccountStorage address slot value =>
    (.unit, ForkFactory.insertAccountStorage backend db address slot value)

/-- How far an operation gets before it returns or blocks: it is done, or asks the backend for a
key. -/
inductive Progress (ε : Type)
  | done (outcome : Except (DatabaseError ε) Value) (db : CacheDb)
  | ask (key : FetchRequestFuture) (db : CacheDb)

namespace Operation

/-- An operation up to its first request. -/
def start (ε : Type) (db : CacheDb) : Operation → Progress ε
  | .fork (.commit changes) => .done (.ok .unit) (db.commit changes)
  | .fork (.basic address) | .fork (.basicRef address) =>
    match db.accounts address with
    -- basic info is already in db
    | some account => .done (.ok (.info (some account.info))) db
    | none => .ask (.basic address) db
  | .fork (.storage address index) =>
    match db.slot address index with
    -- account storage exists at slot
    | some entry => .done (.ok (.word entry)) db
    -- get account info
    | none => .ask (.basic address) db
  | .fork (.storageRef address index) =>
    match db.slot address index with
    | some entry => .done (.ok (.word entry)) db
    | none => .ask (.storage address index) db
  | .fork (.blockHash number) =>
    match db.blockHashes number with
    | some hash => .done (.ok (.word hash)) db
    | none => .ask (.blockHash number) db
  | .fork (.blockHashRef number) =>
    if 2 ^ 64 - 1 < number.toNat then .done (.ok (.word keccakEmpty)) db
    else .ask (.blockHash number) db
  | .insertAccountInfo address info => .done (.ok .unit) (db.insertAccountInfo address info)
  | .insertAccountStorage address slot value =>
    match db.accounts address with
    | some _ => .done (.ok .unit) (db.insertAccountStorage address slot value)
    -- set basic info as its missing
    | none => .ask (.basic address) db

/-- An operation from the reply to a request to the next one. A channel has the type of its request,
so that a reply of another kind never comes. -/
def resume (db : CacheDb) : Operation → Reply ε → Option (Progress ε)
  | _, .basic (.error err) | _, .storage (.error err) | _, .blockHash (.error err) =>
    some (.done (.error err) db)
  | .fork (.basic address), .basic (.ok info) =>
    -- keep record of fetched acc basic info
    some (.done (.ok (.info (some info))) (db.insertAccountInfo address info))
  | .fork (.storage address index), .basic (.ok info) =>
    some (.ask (.storage address index) (db.insertAccountInfo address info))
  | .fork (.storage address index), .storage (.ok value) =>
    some (.done (.ok (.word value)) (db.insertAccountStorage address index value))
  | .fork (.blockHash number), .blockHash (.ok hash) =>
    some (.done (.ok (.word hash)) (db.insertBlockHash number hash))
  | .fork (.basicRef _), .basic (.ok info) => some (.done (.ok (.info (some info))) db)
  | .fork (.storageRef _ _), .storage (.ok value) => some (.done (.ok (.word value)) db)
  | .fork (.blockHashRef _), .blockHash (.ok hash) => some (.done (.ok (.word hash)) db)
  | .insertAccountStorage address slot value, .basic (.ok info) =>
    some (.done (.ok .unit)
      ((db.insertAccountInfo address info).insertAccountStorage address slot value))
  | _, _ => none

end Operation

/-! ### The clients -/

/-- A fork or a factory: its database, the operation that blocks it, with the key it has asked for and
the channel of the reply, and what its operations have returned. -/
structure Client (ε : Type) where
  base : CacheDb
  db : CacheDb
  blocked : Option (Operation × FetchRequestFuture × Sender)
  returned : List (Operation × Except (DatabaseError ε) Value)

/-- A fork starts with the database of the factory, and a clone with that of the original. -/
def Client.new (db : CacheDb) : Client ε := ⟨db, db, none, []⟩

/-- The backend, the requests on their way to it, and the clients. -/
structure ForkSystem (ε : Type) where
  backend : GlobalBackend ε
  channel : List BackendFetchRequest
  clients : List (Client ε)

namespace ForkSystem

/-- `new_sandbox_factory` makes the backend and the factory. -/
def new (initialDb : CacheDb) : ForkSystem ε := ⟨.new initialDb, [], [.new initialDb]⟩

/-- One step of the whole. -/
inductive Label (ε : Type)
  /-- Clone a client, or make a fork. -/
  | clone (n : ℕ)
  /-- Call an operation of a client. -/
  | call (n : ℕ) (op : Operation)
  /-- Take the reply that a client waits for. -/
  | resume (n : ℕ)
  /-- The backend receives a request. -/
  | receive
  /-- The backend handles a request. -/
  | handle
  /-- The backend polls a future. -/
  | poll (n : ℕ) (provider : Provider ε)

variable (system : ForkSystem ε)

/-- All requests ever sent. Their channels are numbered. -/
def requested : List BackendFetchRequest := system.backend.received ++ system.channel

/-- A client has got somewhere with an operation. -/
def advance (n : ℕ) (client : Client ε) (op : Operation) : Progress ε → ForkSystem ε
  | .done outcome db =>
    let client := { client with db, blocked := none, returned := client.returned ++ [(op, outcome)] }
    { system with clients := system.clients.set n client }
  | .ask key db =>
    let sender := system.requested.length
    let client := { client with db, blocked := some (op, key, sender) }
    { system with
      channel := system.channel ++ [key.request sender]
      clients := system.clients.set n client }

/-- What has been sent on a channel. -/
def replyOn (sender : Sender) : Option (Reply ε) :=
  (system.backend.sent.find? fun answer => answer.1.sender = sender).map Prod.snd

def next (keccak256 : List Byte → Word) : Label ε → Option (ForkSystem ε)
  | .clone n => do
    let client ← system.clients[n]?
    some { system with clients := system.clients ++ [.new client.db] }
  | .call n op => do
    let client ← system.clients[n]?
    guard client.blocked.isNone
    some (system.advance n client op (op.start ε client.db))
  | .resume n => do
    let client ← system.clients[n]?
    let (op, _, sender) ← client.blocked
    let reply ← system.replyOn sender
    let progress ← op.resume client.db reply
    some (system.advance n client op progress)
  | .receive =>
    match system.channel with
    | [] => none
    | request :: channel => some { system with backend := system.backend.receive request, channel }
  | .handle => do
    let backend ← system.backend.next keccak256 .handle
    some { system with backend }
  | .poll n provider => do
    let backend ← system.backend.next keccak256 (.poll n provider)
    some { system with backend }

def Step (keccak256 : List Byte → Word) (system : ForkSystem ε) (label : Label ε)
    (after : ForkSystem ε) : Prop :=
  system.next keccak256 label = some after

end ForkSystem

/-- A run of a new system. -/
abbrev SystemRun (keccak256 : List Byte → Word) (initialDb : CacheDb) :
    List (ForkSystem ε × ForkSystem.Label ε) → ForkSystem ε → Prop :=
  Run (ForkSystem.Step keccak256) (.new initialDb)

/-! ### What the steps do -/

namespace ForkSystem

variable {system after : ForkSystem ε} {keccak256 : List Byte → Word}

/-- Every step is one of the backend, or one of a client that leaves the backend as it is. -/
inductive Moves (keccak256 : List Byte → Word) (system : ForkSystem ε) : Label ε → ForkSystem ε → Prop
  | clone {n : ℕ} {client : Client ε} (found : system.clients[n]? = some client) :
      Moves keccak256 system (.clone n)
        { system with clients := system.clients ++ [.new client.db] }
  | call {n : ℕ} {client : Client ε} {op : Operation} (found : system.clients[n]? = some client)
      (free : client.blocked = none) :
      Moves keccak256 system (.call n op) (system.advance n client op (op.start ε client.db))
  | resume {n : ℕ} {client : Client ε} {op : Operation} {key : FetchRequestFuture}
      {sender : Sender} {reply : Reply ε} {progress : Progress ε}
      (found : system.clients[n]? = some client) (blocked : client.blocked = some (op, key, sender))
      (replied : system.replyOn sender = some reply)
      (resumed : op.resume client.db reply = some progress) :
      Moves keccak256 system (.resume n) (system.advance n client op progress)
  | receive {request : BackendFetchRequest} {channel : List BackendFetchRequest}
      (front : system.channel = request :: channel) :
      Moves keccak256 system .receive
        { system with backend := system.backend.receive request, channel }
  | handle {backend : GlobalBackend ε}
      (step : GlobalBackend.Step keccak256 system.backend .handle backend) :
      Moves keccak256 system .handle { system with backend }
  | poll {n : ℕ} {provider : Provider ε} {backend : GlobalBackend ε}
      (step : GlobalBackend.Step keccak256 system.backend (.poll n provider) backend) :
      Moves keccak256 system (.poll n provider) { system with backend }

theorem moves {label : Label ε} (step : Step keccak256 system label after) :
    Moves keccak256 system label after := by
  unfold Step next at step
  cases label with
  | clone n =>
    obtain ⟨client, found, rest⟩ := Option.bind_eq_some_iff.mp step
    obtain rfl := Option.some.inj rest
    exact .clone found
  | call n op =>
    obtain ⟨client, found, rest⟩ := Option.bind_eq_some_iff.mp step
    obtain ⟨_, guarded, rest⟩ := Option.bind_eq_some_iff.mp rest
    obtain rfl := Option.some.inj rest
    have free : client.blocked = none := by
      by_contra waits
      simp [guard, waits] at guarded
    exact .call found free
  | resume n =>
    obtain ⟨client, found, rest⟩ := Option.bind_eq_some_iff.mp step
    obtain ⟨⟨op, key, sender⟩, blocked, rest⟩ := Option.bind_eq_some_iff.mp rest
    obtain ⟨reply, replied, rest⟩ := Option.bind_eq_some_iff.mp rest
    obtain ⟨progress, resumed, rest⟩ := Option.bind_eq_some_iff.mp rest
    obtain rfl := Option.some.inj rest
    exact .resume found blocked replied resumed
  | receive =>
    rcases front : system.channel with _ | ⟨request, channel⟩
    · rw [front] at step
      exact absurd step (by simp)
    · rw [front] at step
      obtain rfl := Option.some.inj step
      exact .receive front
  | handle =>
    obtain ⟨backend, handled, rest⟩ := Option.bind_eq_some_iff.mp step
    obtain rfl := Option.some.inj rest
    exact .handle handled
  | poll n provider =>
    obtain ⟨backend, polled, rest⟩ := Option.bind_eq_some_iff.mp step
    obtain rfl := Option.some.inj rest
    exact .poll polled

end ForkSystem

end Sando.ForkedDb
