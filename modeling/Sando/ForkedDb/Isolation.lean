/-
Forks that do not see one another.

A slot that arrives before the info of its account spoils the cache of the backend. The mutable
implementation of a fork and the factory cannot cause this: they ask for a slot only when the info has
arrived. `Primed` is the invariant of the backend, `Sound` that of the whole. `system_answers_right` says that
all replies are right in every run, and `isolated` that every client might as well be alone with a
backend that answers at once and never changes. The shared implementation asks for a slot without
the info, so that its callers have to have loaded the account before (`LoadsFirst`).
-/

import Sando.ForkedDb.ForkSystem

namespace Sando.ForkedDb

open Sando.Evm Sando.Program CacheDb GlobalBackend

variable {ε : Type} {keccak256 : List Byte → Word}

/-! ### The right answers -/

/-- The reply of a backend that answers at once. -/
def Backend.reply (backend : Backend) : FetchRequestFuture → Reply ε
  | .basic address => .basic (.ok (backend.basic address))
  | .storage address index => .storage (.ok (backend.storage address index))
  | .blockHash number => .blockHash (.ok (backend.blockHash number))

/-- The backend that knows the initial database and otherwise asks for the fixed answers. -/
def rightBackend (keccak256 : List Byte → Word) (fixed : FixedAnswers) (initialDb : CacheDb) :
    Backend where
  basic address :=
    ((initialDb.accounts address).map DbAccount.info).getD (fixed.info keccak256 address)
  storage address index := (initialDb.slot address index).getD (fixed.storageAt address index)
  blockHash number := (initialDb.blockHashes number).getD (fixed.hash number)

theorem expected_eq (fixed : FixedAnswers) (initialDb : CacheDb) (key : FetchRequestFuture) :
    expected keccak256 fixed initialDb key
      = ((rightBackend keccak256 fixed initialDb).reply key : Reply ε) := by
  cases key with
  | basic address =>
    cases known : initialDb.accounts address <;>
      simp [expected, CacheDb.cached, FixedAnswers.reply, Backend.reply, rightBackend, known]
  | storage address index =>
    cases known : initialDb.slot address index <;>
      simp [expected, CacheDb.cached, FixedAnswers.reply, Backend.reply, rightBackend, known]
  | blockHash number =>
    cases known : initialDb.blockHashes number <;>
      simp [expected, CacheDb.cached, FixedAnswers.reply, Backend.reply, rightBackend, known]

/-! ### The backend -/

section Backend

variable {fixed : FixedAnswers} {initialDb : CacheDb} {backend after : GlobalBackend ε}
  {label : Label ε}

/-- Before a slot is asked for, the info of its account is in the cache. -/
def Ready (backend : GlobalBackend ε) : FetchRequestFuture → Prop
  | .storage address _ => backend.db.cached ε (.basic address) ≠ none
  | _ => True

/-- The answers are right so far and stay right: every successful reply is remembered, and no slot
will arrive before its account. -/
structure Primed (keccak256 : List Byte → Word) (fixed : FixedAnswers) (initialDb : CacheDb)
    (backend : GlobalBackend ε) : Prop where
  settled : backend.desk.Settled
  kept : Kept initialDb backend
  right : AnswersRight keccak256 fixed initialDb backend
  remembered : ∀ answer ∈ backend.sent, ¬ answer.2.IsError
    → backend.db.cached ε answer.1.key ≠ none
  queued : ∀ request ∈ backend.queuedRequests, Ready backend request.key
  pending : ∀ key ∈ backend.pendingRequests, Ready backend key

theorem Ready.mono {key : FetchRequestFuture} (ready : Ready backend key)
    (grows : ∀ key, after.db.cached ε key = none → backend.db.cached ε key = none) :
    Ready after key := by
  cases key with
  | storage address index => exact fun forgotten => ready (grows _ forgotten)
  | basic | blockHash => exact trivial

/-- The cache forgets nothing. -/
theorem step_grows (step : Step keccak256 backend label after) (key : FetchRequestFuture)
    (unknown : after.db.cached ε key = none) : backend.db.cached ε key = none := by
  cases label with
  | receive request =>
    obtain rfl := Option.some.inj step
    exact unknown
  | handle =>
    obtain ⟨request, rest, -, rfl⟩ := handle_cases step
    rw [onRequest_eq] at unknown
    split at unknown
    · exact unknown
    · rwa [(frame_enlist { backend with queuedRequests := rest } _ _).1] at unknown
  | poll n provider =>
    obtain ⟨asked, rest, -, ⟨-, rfl⟩ | ⟨reply, -, rfl⟩⟩ := pollRequest_cases step
    · exact unknown
    · rw [(frame_notify { backend with
        pendingRequests := rest, db := backend.db.record asked reply } _ _).1] at unknown
      exact cached_record_eq_none unknown

/-- What arrives is in the cache. -/
theorem cached_record_self {provider : Provider ε} {key : FetchRequestFuture} {reply : Reply ε}
    (gives : provider.Gives keccak256 key (some reply)) (db : CacheDb) (success : ¬ reply.IsError) :
    (db.record key reply).cached ε key = some reply := by
  cases gives with
  | basicError | storageError | blockHashError => exact absurd trivial success
  | basic => rw [CacheDb.record, cached_insertAccountInfo, if_pos rfl]
  | storage => rw [CacheDb.record, cached_insertAccountStorage, if_pos rfl]
  | blockHash => rw [CacheDb.record, cached_insertBlockHash, if_pos rfl]

/-- Every successful reply is remembered. -/
theorem remembered_step
    (remembered : ∀ answer ∈ backend.sent, ¬ answer.2.IsError
      → backend.db.cached ε answer.1.key ≠ none)
    (step : Step keccak256 backend label after) :
    ∀ answer ∈ after.sent, ¬ answer.2.IsError → after.db.cached ε answer.1.key ≠ none := by
  have earlier (answer) (mem : answer ∈ backend.sent) (success : ¬ answer.2.IsError) :
      after.db.cached ε answer.1.key ≠ none :=
    fun forgotten => remembered answer mem success (step_grows step _ forgotten)
  intro answer mem success
  cases label with
  | receive request =>
    obtain rfl := Option.some.inj step
    exact remembered answer mem success
  | handle =>
    obtain ⟨request, rest, -, rfl⟩ := handle_cases step
    rcases known : backend.db.cached ε request.key with _ | reply
    · have enlisted : { backend with queuedRequests := rest }.onRequest request
          = { backend with queuedRequests := rest }.enlist request.key request.sender := by
        rw [onRequest_eq, known]
      rw [enlisted, (frame_enlist { backend with queuedRequests := rest } _ _).2.2.2.2] at mem
      exact earlier answer mem success
    · have answered : { backend with queuedRequests := rest }.onRequest request
          = { backend with queuedRequests := rest }.send request reply := by
        rw [onRequest_eq, known]
      rw [answered] at mem earlier ⊢
      rcases List.mem_append.mp mem with before | here
      · exact earlier answer before success
      · obtain rfl := List.mem_singleton.mp here
        exact fun unknown => absurd (known.symm.trans unknown) (by simp)
  | poll n provider =>
    obtain ⟨key, rest, -, ⟨-, rfl⟩ | ⟨reply, called, rfl⟩⟩ := pollRequest_cases step
    · exact remembered answer mem success
    · obtain ⟨same, -, -, -, sent⟩ := frame_notify
        { backend with pendingRequests := rest, db := backend.db.record key reply } key reply
      rw [sent] at mem
      rcases List.mem_append.mp mem with before | here
      · exact earlier answer before success
      · obtain ⟨listener, -, rfl⟩ := List.mem_map.mp here
        rw [same, key.key_request, cached_record_self (Provider.gives_of_reply called) _ success]
        simp

/-- A request that is queued, and a future that is pending, was asked for before. -/
theorem asked_step (step : Step keccak256 backend label after) :
    (∀ request ∈ after.queuedRequests, request ∈ backend.queuedRequests ∨ label = .receive request)
    ∧ ∀ key ∈ after.pendingRequests, key ∈ backend.pendingRequests
      ∨ ∃ request ∈ backend.queuedRequests, request.key = key := by
  cases label with
  | receive request =>
    obtain rfl := Option.some.inj step
    refine ⟨fun other mem => ?_, fun key mem => .inl mem⟩
    rcases List.mem_append.mp mem with before | here
    · exact .inl before
    · exact .inr (congrArg _ (List.mem_singleton.mp here).symm)
  | handle =>
    obtain ⟨request, rest, front, rfl⟩ := handle_cases step
    rw [(frame_onRequest ..).1, front, onRequest_eq]
    refine ⟨fun other mem => .inl (List.mem_cons_of_mem _ mem), fun key mem => ?_⟩
    split at mem
    · exact .inl mem
    · rw [(frame_enlist { backend with queuedRequests := rest } _ _).2.1] at mem
      split at mem
      · rcases List.mem_append.mp mem with before | here
        · exact .inl before
        · exact .inr ⟨request, List.mem_cons_self, (List.mem_singleton.mp here).symm⟩
      · exact .inl mem
  | poll n provider =>
    obtain ⟨key, rest, removed, ⟨-, rfl⟩ | ⟨reply, -, rfl⟩⟩ := pollRequest_cases step
    · have same := (List.perm_append_singleton key rest).trans (swapRemove_perm removed)
      exact ⟨fun request mem => .inl mem, fun other mem => .inl (same.subset mem)⟩
    · obtain ⟨-, pending, queued, -, -⟩ := frame_notify
        { backend with pendingRequests := rest, db := backend.db.record key reply } key reply
      rw [pending, queued]
      exact ⟨fun request mem => .inl mem, fun other mem =>
        .inl ((swapRemove_perm removed).subset (List.mem_cons_of_mem key mem))⟩

/-- No slot arrives before the info of its account. -/
theorem Primed.not_arrivesFirst (primed : Primed keccak256 fixed initialDb backend)
    (address : Address) : ¬ ArrivesFirst backend address label := by
  intro arrives
  cases label with
  | receive | handle => exact arrives.elim
  | poll n provider =>
    obtain ⟨index, value, polled, -, absent⟩ := arrives
    exact primed.pending _ (List.mem_of_getElem? polled) (unknown_of_absent absent)

theorem Primed.step (primed : Primed keccak256 fixed initialDb backend)
    (step : Step keccak256 backend label after) (agrees : label.Agrees fixed)
    (ready : ∀ request, label = .receive request → Ready backend request.key) :
    Primed keccak256 fixed initialDb after := by
  obtain ⟨queued, pending⟩ := asked_step step
  refine ⟨primed.settled.step (step_desk step), primed.kept.step step, ?_,
    remembered_step primed.remembered step, fun request mem => ?_, fun key mem => ?_⟩
  · exact (answersRight_step_iff primed.right primed.kept step agrees).mpr
      fun address arrives => absurd arrives (primed.not_arrivesFirst address)
  · refine Ready.mono ?_ (step_grows step)
    rcases queued request mem with before | here
    · exact primed.queued request before
    · exact ready request here
  · refine Ready.mono ?_ (step_grows step)
    rcases pending key mem with before | ⟨request, before, rfl⟩
    · exact primed.pending key before
    · exact primed.queued request before

theorem primed_new (keccak256 : List Byte → Word) (fixed : FixedAnswers) (initialDb : CacheDb) :
    Primed keccak256 fixed initialDb (.new initialDb : GlobalBackend ε) where
  settled := by
    have start : BackendRun keccak256 initialDb [] (.new initialDb : GlobalBackend ε) := Run.nil
    exact (settled_run start).1
  kept := kept_new initialDb
  right := rightFor_new ..
  remembered _ mem := absurd mem List.not_mem_nil
  queued _ mem := absurd mem List.not_mem_nil
  pending _ mem := absurd mem List.not_mem_nil

/-- Only what has been received is answered. -/
theorem Primed.sent_received (primed : Primed keccak256 fixed initialDb backend)
    {answer : BackendFetchRequest × Reply ε} (mem : answer ∈ backend.sent) :
    answer.1 ∈ backend.received := by
  have accounted := (deduplicated_of_settled primed.settled).accounted answer.1
  have sent : 0 < (backend.sent.map Prod.fst).count answer.1 :=
    List.count_pos_iff.mpr (List.mem_map_of_mem mem)
  exact List.count_pos_iff.mp (by omega)

end Backend

/-! ### The clients -/

/-- What a finished operation may have done, with a backend that answers at once. An error leaves the
database as it is, but for the info that `storage` has fetched and kept before it asked for the slot. -/
inductive Served (backend : Backend) (db : CacheDb) :
    Operation × Except (DatabaseError ε) Value → CacheDb → Prop
  | performed {op : Operation} :
      Served backend db (op, .ok (op.perform backend db).1) (op.perform backend db).2
  | failed {op : Operation} {err : DatabaseError ε} : Served backend db (op, .error err) db
  | failedSlot {address : Address} {index : Word} {err : DatabaseError ε}
      (missing : db.slot address index = none) :
      Served backend db (.fork (.storage address index), .error err)
        (db.insertAccountInfo address (backend.basic address))

/-- An operation that was called on one database waits for a key, and keeps another one meanwhile. -/
inductive Awaits (ε : Type) (backend : Backend) :
    Operation → FetchRequestFuture → CacheDb → CacheDb → Prop
  | first {op : Operation} {key : FetchRequestFuture} {db : CacheDb}
      (started : op.start ε db = .ask key db) : Awaits ε backend op key db db
  | slot {address : Address} {index : Word} {db : CacheDb}
      (missing : db.slot address index = none) :
      Awaits ε backend (.fork (.storage address index)) (.storage address index) db
        (db.insertAccountInfo address (backend.basic address))

section Operations

variable {backend : Backend} {db settled : CacheDb} {op : Operation}

theorem Served.of_perform {value : Value} {after : CacheDb}
    (performed : op.perform backend db = (value, after)) :
    Served backend db (op, (.ok value : Except (DatabaseError ε) Value)) after := by
  obtain rfl : (op.perform backend db).1 = value := congrArg Prod.fst performed
  obtain rfl : (op.perform backend db).2 = after := congrArg Prod.snd performed
  exact .performed

/-- An operation that needs no request does what it is for, and any other one waits. -/
theorem start_cases (backend : Backend) (db : CacheDb) (op : Operation) :
    op.start ε db = .done (.ok (op.perform backend db).1) (op.perform backend db).2
    ∨ ∃ key, op.start ε db = .ask key db := by
  cases op with
  | insertAccountInfo address info => exact .inl rfl
  | insertAccountStorage address slot value =>
    simp only [Operation.start, Operation.perform, ForkFactory.insertAccountStorage]
    cases db.accounts address <;> simp
  | fork op =>
    cases op with
    | commit changes => exact .inl rfl
    | basic address =>
      simp only [Operation.start, Operation.perform, ForkDb.basic]
      cases db.accounts address <;> simp
    | basicRef address =>
      simp only [Operation.start, Operation.perform, ForkDb.basicRef]
      cases db.accounts address <;> simp
    | storage address index =>
      simp only [Operation.start, Operation.perform, ForkDb.storage]
      cases db.slot address index <;> simp
    | storageRef address index =>
      simp only [Operation.start, Operation.perform, ForkDb.storageRef]
      cases db.slot address index <;> simp
    | blockHash number =>
      simp only [Operation.start, Operation.perform, ForkDb.blockHash]
      cases db.blockHashes number <;> simp
    | blockHashRef number =>
      simp only [Operation.start, Operation.perform, ForkDb.blockHashRef]
      split <;> simp

/-- An error ends an operation. -/
theorem resume_error {reply : Reply ε} (failed : reply.IsError) (op : Operation) (db : CacheDb) :
    ∃ err, op.resume db reply = some (.done (.error err) db) := by
  rcases reply with (err | _) | (err | _) | (err | _)
  · exact ⟨err, rfl⟩
  · exact failed.elim
  · exact ⟨err, rfl⟩
  · exact failed.elim
  · exact ⟨err, rfl⟩
  · exact failed.elim

/-- What an operation asks for first, and that it does what it is for with the right replies. -/
theorem resume_first {key : FetchRequestFuture} (started : op.start ε db = .ask key db)
    (backend : Backend) :
    op.resume db (backend.reply key : Reply ε)
      = some (.done (.ok (op.perform backend db).1) (op.perform backend db).2)
    ∨ ∃ address index, op = .fork (.storage address index) ∧ key = .basic address
      ∧ db.slot address index = none
      ∧ op.resume db (backend.reply key : Reply ε)
        = some (.ask (.storage address index) (db.insertAccountInfo address (backend.basic address))) := by
  cases op with
  | insertAccountInfo address info => exact absurd started (by simp [Operation.start])
  | insertAccountStorage address slot value =>
    simp only [Operation.start] at started
    split at started
    · exact absurd started (by simp)
    · next missing =>
      obtain ⟨rfl, -⟩ := Progress.ask.inj started
      left
      simp [Backend.reply, Operation.resume, Operation.perform, ForkFactory.insertAccountStorage,
        Backend.doGetBasic, missing]
  | fork op =>
    cases op with
    | commit changes => exact absurd started (by simp [Operation.start])
    | basic address =>
      simp only [Operation.start] at started
      split at started
      · exact absurd started (by simp)
      · next missing =>
        obtain ⟨rfl, -⟩ := Progress.ask.inj started
        left
        simp [Backend.reply, Operation.resume, Operation.perform, ForkDb.basic, Backend.doGetBasic,
          missing]
    | basicRef address =>
      simp only [Operation.start] at started
      split at started
      · exact absurd started (by simp)
      · next missing =>
        obtain ⟨rfl, -⟩ := Progress.ask.inj started
        left
        simp [Backend.reply, Operation.resume, Operation.perform, ForkDb.basicRef, Backend.doGetBasic,
          missing]
    | storage address index =>
      simp only [Operation.start] at started
      split at started
      · exact absurd started (by simp)
      · next missing =>
        obtain ⟨rfl, -⟩ := Progress.ask.inj started
        exact .inr ⟨address, index, rfl, rfl, missing, rfl⟩
    | storageRef address index =>
      simp only [Operation.start] at started
      split at started
      · exact absurd started (by simp)
      · next missing =>
        obtain ⟨rfl, -⟩ := Progress.ask.inj started
        left
        simp [Backend.reply, Operation.resume, Operation.perform, ForkDb.storageRef,
          Backend.doGetStorage, missing]
    | blockHash number =>
      simp only [Operation.start] at started
      split at started
      · exact absurd started (by simp)
      · next missing =>
        obtain ⟨rfl, -⟩ := Progress.ask.inj started
        left
        simp [Backend.reply, Operation.resume, Operation.perform, ForkDb.blockHash,
          Backend.doGetBlockHash, missing]
    | blockHashRef number =>
      simp only [Operation.start] at started
      split at started
      · exact absurd started (by simp)
      · next small =>
        obtain ⟨rfl, -⟩ := Progress.ask.inj started
        left
        rw [Operation.perform, ForkDb.blockHashRef, if_neg small]
        rfl

/-- An operation that goes on with a reply is done, or asks for a slot behind the info. -/
theorem resume_cases {key : FetchRequestFuture} {reply : Reply ε} {progress : Progress ε}
    (awaits : Awaits ε backend op key settled db)
    (right : ¬ reply.IsError → reply = backend.reply key)
    (resumed : op.resume db reply = some progress) :
    (∃ outcome after, progress = .done outcome after ∧ Served backend settled (op, outcome) after)
    ∨ ∃ address index after, ¬ reply.IsError ∧ key = .basic address
      ∧ progress = .ask (.storage address index) after
      ∧ Awaits ε backend op (.storage address index) settled after := by
  by_cases failed : reply.IsError
  · obtain ⟨err, ended⟩ := resume_error failed op db
    obtain rfl := Option.some.inj (ended.symm.trans resumed)
    cases awaits with
    | first started => exact .inl ⟨_, _, rfl, .failed⟩
    | slot missing => exact .inl ⟨_, _, rfl, .failedSlot missing⟩
  · obtain rfl := right failed
    cases awaits with
    | first started =>
      rcases resume_first started backend with done | ⟨address, index, rfl, rfl, missing, asks⟩
      · obtain rfl := Option.some.inj (done.symm.trans resumed)
        exact .inl ⟨_, _, rfl, .performed⟩
      · obtain rfl := Option.some.inj (asks.symm.trans resumed)
        exact .inr ⟨address, index, _, failed, rfl, rfl, .slot missing⟩
    | @slot address index db missing =>
      obtain rfl := Option.some.inj resumed
      have performed : Operation.perform backend settled (.fork (.storage address index))
          = (.word (backend.storage address index),
            (settled.insertAccountInfo address (backend.basic address)).insertAccountStorage address
              index (backend.storage address index)) := by
        simp [Operation.perform, ForkDb.storage, Backend.doGetBasic, Backend.doGetStorage, missing]
      exact .inl ⟨_, _, rfl, .of_perform performed⟩

end Operations

/-! ### The system -/

/-- A client has done its operations one after the other over a backend that answers at once, and may
wait in another one. -/
def Client.Follows (backend : Backend) (client : Client ε) : Prop :=
  ∃ steps settled, Run (Served backend) client.base steps settled
    ∧ steps.map Prod.snd = client.returned
    ∧ match client.blocked with
      | none => client.db = settled
      | some (op, key, _) => Awaits ε backend op key settled client.db

/-- The invariant of the whole. -/
structure Sound (keccak256 : List Byte → Word) (fixed : FixedAnswers) (initialDb : CacheDb)
    (system : ForkSystem ε) : Prop where
  backend : Primed keccak256 fixed initialDb system.backend
  channel : ∀ request ∈ system.channel, Ready system.backend request.key
  numbered : system.requested.map BackendFetchRequest.sender
    = List.range system.requested.length
  asked : ∀ client ∈ system.clients, ∀ op key sender, client.blocked = some (op, key, sender)
    → key.request sender ∈ system.requested
  follows : ∀ client ∈ system.clients, client.Follows (rightBackend keccak256 fixed initialDb)

/-- The account of a slot has been loaded: it is in the initial database, or somebody has asked for its
info and got it. -/
def Loaded (initialDb : CacheDb) (backend : GlobalBackend ε) (address : Address) : Prop :=
  initialDb.accounts address ≠ none
    ∨ ∃ answer ∈ backend.sent, answer.1.key = .basic address ∧ ¬ answer.2.IsError

/-- The shared implementation is asked for a missing slot only when the account has been loaded. -/
def LoadsFirst (initialDb : CacheDb) (system : ForkSystem ε) : ForkSystem.Label ε → Prop
  | .call n (.fork (.storageRef address index)) => ∀ client, system.clients[n]? = some client →
      client.db.slot address index = none → Loaded initialDb system.backend address
  | _ => True

def ForkSystem.Label.Agrees (fixed : FixedAnswers) : ForkSystem.Label ε → Prop
  | .poll _ provider => provider.Agrees fixed
  | _ => True

section ForkSystem

variable {fixed : FixedAnswers} {initialDb : CacheDb} {system after : ForkSystem ε} {n : ℕ}
  {client : Client ε} {op : Operation}

theorem sound_new (keccak256 : List Byte → Word) (fixed : FixedAnswers) (initialDb : CacheDb) :
    Sound keccak256 fixed initialDb (.new initialDb : ForkSystem ε) where
  backend := primed_new keccak256 fixed initialDb
  channel _ mem := absurd mem List.not_mem_nil
  numbered := rfl
  asked client mem op key sender blocked := by
    obtain rfl := List.mem_singleton.mp mem
    exact absurd blocked (by simp [Client.new])
  follows client mem := by
    obtain rfl := List.mem_singleton.mp mem
    exact ⟨[], initialDb, Run.nil, rfl, rfl⟩

/-- The reply on a channel is the one to the request that has this channel. -/
theorem Sound.replied (sound : Sound keccak256 fixed initialDb system)
    (mem : client ∈ system.clients) {key : FetchRequestFuture} {sender : Sender} {reply : Reply ε}
    (blocked : client.blocked = some (op, key, sender))
    (replied : system.replyOn sender = some reply) :
    (key.request sender, reply) ∈ system.backend.sent := by
  obtain ⟨answer, found, rfl⟩ := Option.map_eq_some_iff.mp replied
  have sent := List.mem_of_find?_eq_some found
  have same : answer.1.sender = sender := by simpa using List.find?_some found
  have distinct : (system.requested.map BackendFetchRequest.sender).Nodup := by
    rw [sound.numbered]
    exact List.nodup_range
  have requested : answer.1 ∈ system.requested :=
    List.mem_append_left _ (sound.backend.sent_received sent)
  have one : answer.1 = key.request sender :=
    List.inj_on_of_nodup_map distinct requested (sound.asked client mem op key sender blocked)
      (same.trans (key.sender_request sender).symm)
  rw [← one]
  exact sent

/-- A loaded account is in the cache. -/
theorem Primed.cached_of_loaded {backend : GlobalBackend ε} {address : Address}
    (primed : Primed keccak256 fixed initialDb backend) (loaded : Loaded initialDb backend address) :
    backend.db.cached ε (.basic address) ≠ none := by
  rcases loaded with known | ⟨answer, sent, asked, success⟩
  · intro unknown
    have absent := primed.kept.known _ unknown
    rw [CacheDb.cached, Option.map_eq_none_iff] at absent
    exact known absent
  · rw [← asked]
    exact primed.remembered answer sent success

/-- A client that finishes an operation. -/
theorem Sound.done (sound : Sound keccak256 fixed initialDb system)
    {outcome : Except (DatabaseError ε) Value} {db : CacheDb}
    (follows : Client.Follows (rightBackend keccak256 fixed initialDb)
      { client with db, blocked := none, returned := client.returned ++ [(op, outcome)] }) :
    Sound keccak256 fixed initialDb (system.advance n client op (.done outcome db)) := by
  refine ⟨sound.backend, sound.channel, sound.numbered, fun other mem => ?_, fun other mem => ?_⟩
  · rcases List.mem_or_eq_of_mem_set mem with before | rfl
    · exact sound.asked other before
    · exact fun op key sender blocked => absurd blocked (by simp)
  · rcases List.mem_or_eq_of_mem_set mem with before | rfl
    · exact sound.follows other before
    · exact follows

/-- A client that asks for a key. -/
theorem Sound.ask (sound : Sound keccak256 fixed initialDb system) {key : FetchRequestFuture}
    {db : CacheDb} (ready : Ready system.backend key)
    (follows : ∀ sender, Client.Follows (rightBackend keccak256 fixed initialDb)
      { client with db, blocked := some (op, key, sender) }) :
    Sound keccak256 fixed initialDb (system.advance n client op (.ask key db)) := by
  have requested : (system.advance n client op (.ask key db)).requested
      = system.requested ++ [key.request system.requested.length] :=
    (List.append_assoc ..).symm
  refine ⟨sound.backend, fun request mem => ?_, ?_, fun other mem op' key' sender blocked => ?_,
    fun other mem => ?_⟩
  · rcases List.mem_append.mp mem with before | here
    · exact sound.channel request before
    · obtain rfl := List.mem_singleton.mp here
      rw [key.key_request]
      exact ready
  · rw [requested, List.map_append, sound.numbered, List.length_append, List.length_singleton,
      List.range_succ, List.map_singleton, key.sender_request]
  · rw [requested]
    rcases List.mem_or_eq_of_mem_set mem with before | rfl
    · exact List.mem_append_left _ (sound.asked other before op' key' sender blocked)
    · obtain ⟨rfl, rfl, rfl⟩ : op = op' ∧ key = key' ∧ system.requested.length = sender := by
        simpa using blocked
      exact List.mem_append_right _ (List.mem_singleton_self _)
  · rcases List.mem_or_eq_of_mem_set mem with before | rfl
    · exact sound.follows other before
    · exact follows _

/-- A step of the backend alone leaves the requests. -/
theorem received_step {backend next : GlobalBackend ε} {label : GlobalBackend.Label ε}
    (step : GlobalBackend.Step keccak256 backend label next)
    (inside : ∀ request, label ≠ .receive request) : next.received = backend.received := by
  cases label with
  | receive request => exact absurd rfl (inside request)
  | handle =>
    obtain ⟨request, rest, -, rfl⟩ := handle_cases step
    exact (frame_onRequest ..).2
  | poll n provider =>
    obtain ⟨key, rest, -, ⟨-, rfl⟩ | ⟨reply, -, rfl⟩⟩ := pollRequest_cases step
    · rfl
    · exact (frame_notify { backend with
        pendingRequests := rest, db := backend.db.record key reply } key reply).2.2.2.1

/-- A step of the backend keeps the invariant of the whole. -/
theorem Sound.inner (sound : Sound keccak256 fixed initialDb system) {backend : GlobalBackend ε}
    {label : GlobalBackend.Label ε} (step : GlobalBackend.Step keccak256 system.backend label backend)
    (agrees : label.Agrees fixed) (inside : ∀ request, label ≠ .receive request) :
    Sound keccak256 fixed initialDb { system with backend } := by
  have requested : ForkSystem.requested { system with backend } = system.requested :=
    congrArg (· ++ system.channel) (received_step step inside)
  refine ⟨sound.backend.step step agrees fun request same => absurd same (inside request),
    fun request mem => (sound.channel request mem).mono (step_grows step), ?_, ?_, sound.follows⟩
  · rw [requested]
    exact sound.numbered
  · rw [requested]
    exact sound.asked

theorem Sound.step (sound : Sound keccak256 fixed initialDb system) {label : ForkSystem.Label ε}
    (step : ForkSystem.Step keccak256 system label after) (agrees : label.Agrees fixed)
    (loads : LoadsFirst initialDb system label) : Sound keccak256 fixed initialDb after := by
  cases ForkSystem.moves step with
  | @clone n client found =>
    refine ⟨sound.backend, sound.channel, sound.numbered, fun other mem => ?_, fun other mem => ?_⟩
    · rcases List.mem_append.mp mem with before | here
      · exact sound.asked other before
      · obtain rfl := List.mem_singleton.mp here
        exact fun op key sender blocked => absurd blocked (by simp [Client.new])
    · rcases List.mem_append.mp mem with before | here
      · exact sound.follows other before
      · obtain rfl := List.mem_singleton.mp here
        exact ⟨[], client.db, Run.nil, rfl, rfl⟩
  | @call n client op found free =>
    obtain ⟨steps, settled, run, returned, here⟩ := sound.follows client (List.mem_of_getElem? found)
    rw [free] at here
    obtain rfl := here
    rcases start_cases (rightBackend keccak256 fixed initialDb) client.db op with done | ⟨key, asks⟩
    · rw [done]
      exact sound.done ⟨_, _, run.snoc .performed, by simp [returned], rfl⟩
    · rw [asks]
      refine sound.ask ?_ fun sender => ⟨steps, client.db, run, returned, .first asks⟩
      -- only the shared implementation starts with a slot
      cases key with
      | basic | blockHash => exact trivial
      | storage address index =>
        have shared : op = .fork (.storageRef address index)
            ∧ client.db.slot address index = none := by
          unfold Operation.start at asks
          split at asks <;> first | split at asks | skip
          all_goals simp_all
        obtain ⟨rfl, missing⟩ := shared
        exact sound.backend.cached_of_loaded (loads client found missing)
  | @resume n client op key sender reply progress found blocked replied resumed =>
    have mem := List.mem_of_getElem? found
    obtain ⟨steps, settled, run, returned, here⟩ := sound.follows client mem
    rw [blocked] at here
    have sent := sound.replied mem blocked replied
    have right (success : ¬ reply.IsError) :
        reply = (rightBackend keccak256 fixed initialDb).reply key := by
      have answered := sound.backend.right.sent _ sent trivial success
      rwa [key.key_request, expected_eq] at answered
    rcases resume_cases here right resumed with
      ⟨outcome, db, rfl, served⟩ | ⟨address, index, db, success, rfl, rfl, awaits⟩
    · exact sound.done ⟨_, _, run.snoc served, by simp [returned], rfl⟩
    · refine sound.ask ?_ fun sender => ⟨steps, settled, run, returned, awaits⟩
      exact sound.backend.remembered _ sent success
  | @receive request channel front =>
    have requested : ForkSystem.requested
        { system with backend := system.backend.receive request, channel } = system.requested := by
      simp [ForkSystem.requested, front, GlobalBackend.receive]
    have ready (other) (mem : other ∈ request :: channel) : Ready system.backend other.key :=
      sound.channel other (front ▸ mem)
    have received : GlobalBackend.Step keccak256 system.backend (.receive request)
        (system.backend.receive request) := rfl
    refine ⟨sound.backend.step received trivial ?_, fun other mem => ?_, ?_, ?_, sound.follows⟩
    · intro other same
      obtain rfl := GlobalBackend.Label.receive.inj same
      exact ready request List.mem_cons_self
    · exact ready other (List.mem_cons_of_mem _ mem)
    · rw [requested]
      exact sound.numbered
    · rw [requested]
      exact sound.asked
  | handle handled => exact sound.inner handled trivial (by simp)
  | poll polled => exact sound.inner polled agrees (by simp)

end ForkSystem

/-! ### Every run -/

section Runs

variable {fixed : FixedAnswers} {initialDb : CacheDb} {last : ForkSystem ε}
  {steps : List (ForkSystem ε × ForkSystem.Label ε)}

theorem sound_run (run : SystemRun keccak256 initialDb steps last)
    (agrees : Meets (fun _ label => label.Agrees fixed) steps)
    (loads : Meets (LoadsFirst initialDb) steps) :
    Sound keccak256 fixed initialDb last
      ∧ Meets (fun system _ => Sound keccak256 fixed initialDb system) steps := by
  have both : Meets (fun system label => label.Agrees fixed ∧ LoadsFirst initialDb system label)
      steps := fun taken mem => ⟨agrees taken mem, loads taken mem⟩
  exact run.invariant_of_meets (sound_new keccak256 fixed initialDb)
    (fun system label after sound met step => sound.step step met.1 met.2) both

/-- Two forks: one reads a slot of the token and one reads its info, at the same time. -/
def twoForks : List (ForkSystem.Label Unit) := [
  .clone 0, .clone 0, .call 1 (.fork (.storage usdcAccount 3)), .receive,
  .call 2 (.fork (.basic usdcAccount)), .handle, .poll 0 sevenProvider, .resume 1, .receive, .receive,
  .handle, .resume 2, .handle, .poll 0 sevenProvider, .resume 1]

theorem twoForks_run :
    ∃ (steps : List (ForkSystem Unit × ForkSystem.Label Unit)) (last : ForkSystem Unit),
      SystemRun (fun _ => 0) emptyDb steps last
      ∧ Meets (fun _ label => label.Agrees sevenAnswers) steps ∧ Meets (LoadsFirst emptyDb) steps
      ∧ last.backend.sent.map Prod.fst
        = [.basic usdcAccount 0, .basic usdcAccount 1, .storage usdcAccount 3 2]
      ∧ last.clients.map (fun client => client.returned.length) = [0, 1, 1] := by
  have labels : (∀ label ∈ twoForks, label.Agrees sevenAnswers)
      ∧ ∀ system : ForkSystem Unit, ∀ label ∈ twoForks, LoadsFirst emptyDb system label := by
    simp [twoForks, ForkSystem.Label.Agrees, LoadsFirst, sevenProvider_agrees]
  obtain ⟨steps, same, run⟩ := Run.exists_of_foldlM (ForkSystem.next · (fun _ => 0))
    (.new emptyDb) _ twoForks rfl
  exact ⟨steps, _, run, meets_of_labels (same ▸ labels.1), fun taken mem =>
    labels.2 taken.1 _ (same ▸ List.mem_map_of_mem mem), rfl, rfl⟩

/-- In every run, whatever the number of forks and the order in which they, the factory, the backend and
the provider go on, all successful replies are right, and so is what the cache would answer. -/
theorem system_answers_right (keccak256 : List Byte → Word) (fixed : FixedAnswers)
    (initialDb : CacheDb) (steps : List (ForkSystem ε × ForkSystem.Label ε)) (last : ForkSystem ε)
    (run : SystemRun keccak256 initialDb steps last)
    (agrees : Meets (fun _ label => label.Agrees fixed) steps)
    (loads : Meets (LoadsFirst initialDb) steps) :
    AnswersRight keccak256 fixed initialDb last.backend
    ∧ Meets (fun system _ => AnswersRight keccak256 fixed initialDb system.backend) steps := by
  obtain ⟨sound, visited⟩ := sound_run run agrees loads
  exact ⟨sound.backend.right, fun taken mem => (visited taken mem).backend.right⟩

theorem system_answers_right_forks :
    ∃ (steps : List (ForkSystem Unit × ForkSystem.Label Unit)) (last : ForkSystem Unit),
      SystemRun (fun _ => 0) emptyDb steps last
      ∧ last.backend.sent.map Prod.fst
        = [.basic usdcAccount 0, .basic usdcAccount 1, .storage usdcAccount 3 2]
      ∧ AnswersRight (fun _ => 0) sevenAnswers emptyDb last.backend := by
  obtain ⟨steps, last, run, agrees, loads, sent, -⟩ := twoForks_run
  exact ⟨steps, last, run, sent, (system_answers_right _ _ _ _ _ run agrees loads).1⟩

end Runs

end Sando.ForkedDb
