/-
Deduplication of requests.

The backend is a desk: the listeners are those who wait, and a step of the backend is a step of the
desk (`step_desk`). So in every state there is one future for each key with listeners, and each
request received is queued, waits or has been answered, once (`Deduplicated`). `IsAnswered` says where
an answer comes from, and `deduplicated_run` collects what holds of every run.
-/

import Sando.ForkedDb.GlobalBackend

namespace Sando.ForkedDb

open Sando.Evm Sando.Program CacheDb

variable {ε : Type} {keccak256 : List Byte → Word}

/-! ### What the provider says -/

/-- The block number fits 64 bits. -/
def FetchRequestFuture.Fits : FetchRequestFuture → Prop
  | .blockHash number => number.toNat < 2 ^ 64
  | _ => True

namespace Provider

variable (provider : Provider ε)

/-- The fetch of a key has failed. -/
def Fails : FetchRequestFuture → Prop
  | .basic address => ∃ err, provider.getAccount address = some (.error err)
  | .storage address index => ∃ err, provider.getStorageAt address index = some (.error err)
  | .blockHash number => ∃ err, provider.getBlock (number.setWidth 64) = some (.error err)

/-- The fetch of a key is done, successfully or not. -/
def Done : FetchRequestFuture → Prop
  | .basic address => provider.getAccount address ≠ none
  | .storage address index => provider.getStorageAt address index ≠ none
  | .blockHash number => provider.getBlock (number.setWidth 64) ≠ none

/-- Nonces fit 64 bits and mined blocks have a hash. -/
structure Sound : Prop where
  nonce : ∀ address balance nonce code,
    provider.getAccount address = some (.ok (balance, nonce, code)) → nonce.toNat < 2 ^ 64
  hash : ∀ number, provider.getBlock number ≠ some (.ok (some none))

variable {provider}

/-- A reply is there when the fetch is done, and is an error when it has failed. -/
theorem Gives.spec {key : FetchRequestFuture} {ready : Option (Reply ε)}
    (gives : provider.Gives keccak256 key ready) :
    (ready ≠ none ↔ provider.Done key) ∧ ∀ reply, ready = some reply →
      (reply.IsError ↔ provider.Fails key) := by
  cases gives with
  | basicPending calling | storagePending calling | blockHashPending calling =>
    simp [Done, calling]
  | basicError called | storageError called | blockHashError called =>
    simp [Done, Fails, called, Reply.IsError]
  | basic called | storage called =>
    simp [Done, Fails, called, Reply.IsError]
  | blockHash called => simp [Done, Fails, called, Reply.IsError]

/-- With sound answers, only a block number that does not fit makes a future panic. -/
theorem Sound.reply_ne_none (sound : provider.Sound) (keccak256 : List Byte → Word)
    {key : FetchRequestFuture} (fits : key.Fits) : provider.reply keccak256 key ≠ none := by
  cases key with
  | basic address =>
    rcases called : provider.getAccount address with _ | _ | ⟨balance, nonce, code⟩
    · simp [Provider.reply, pollBasic, called]
    · simp [Provider.reply, pollBasic, called]
    · simp [Provider.reply, pollBasic, called, asU64_of_lt (sound.nonce _ _ _ _ called)]
  | storage address index => simp [Provider.reply, pollStorage]
  | blockHash number =>
    rcases called : provider.getBlock (number.setWidth 64) with _ | _ | _ | _ | hash
    · simp [Provider.reply, pollBlockHash, called, asU64_of_lt fits]
    · simp [Provider.reply, pollBlockHash, called, asU64_of_lt fits]
    · simp [Provider.reply, pollBlockHash, called, asU64_of_lt fits]
    · exact absurd called (sound.hash _)
    · simp [Provider.reply, pollBlockHash, called, asU64_of_lt fits]

end Provider

/-! ### The desk -/

/-- A request as its key and its sender. -/
def BackendFetchRequest.split (request : BackendFetchRequest) : FetchRequestFuture × Sender :=
  (request.key, request.sender)

theorem BackendFetchRequest.split_injective : Function.Injective split := by
  intro first second same
  cases first <;> cases second <;> simp_all [split, key, sender]

@[simp] theorem FetchRequestFuture.key_request (key : FetchRequestFuture) (sender : Sender) :
    (key.request sender).key = key := by
  cases key <;> rfl

@[simp] theorem FetchRequestFuture.sender_request (key : FetchRequestFuture) (sender : Sender) :
    (key.request sender).sender = sender := by
  cases key <;> rfl

namespace GlobalBackend

variable {backend after : GlobalBackend ε}

/-- The listeners wait, and the senders of what has been sent have been answered. -/
def desk (backend : GlobalBackend ε) : Desk FetchRequestFuture Sender where
  waiting := backend.listeners
  pending := backend.pendingRequests
  queued := backend.queuedRequests.map BackendFetchRequest.split
  received := backend.received.map BackendFetchRequest.split
  answered := backend.sent.map fun answer => answer.1.split

theorem desk_enlist (key : FetchRequestFuture) (listener : Sender) :
    (backend.enlist key listener).desk = backend.desk.ask key listener := by
  obtain ⟨-, pending, queued, received, sent⟩ := backend.frame_enlist key listener
  apply Desk.ext
  · rw [Desk.waiting_ask]
    exact backend.listeners_enlist key listener
  · rw [Desk.pending_ask]
    exact pending
  · rw [Desk.queued_ask, desk, queued, desk]
  · rw [Desk.received_ask, desk, received, desk]
  · rw [Desk.answered_ask, desk, sent, desk]

theorem desk_notify (key : FetchRequestFuture) (reply : Reply ε) :
    (backend.notify key reply).desk = backend.desk.finish key backend.pendingRequests := by
  obtain ⟨-, pending, queued, received, sent⟩ := backend.frame_notify key reply
  apply Desk.ext
  · exact backend.listeners_notify key reply
  · exact pending
  · rw [desk, queued, Desk.finish, desk]
  · rw [desk, received, Desk.finish, desk]
  · rw [desk, sent, Desk.finish, desk]
    simp [Function.comp_def, BackendFetchRequest.split]

theorem desk_receive (request : BackendFetchRequest) :
    (backend.receive request).desk = { backend.desk with
      queued := backend.desk.queued ++ [request.split]
      received := backend.desk.received ++ [request.split] } :=
  Desk.ext rfl rfl List.map_append List.map_append rfl

theorem desk_send (request : BackendFetchRequest) (reply : Reply ε) :
    (backend.send request reply).desk
      = { backend.desk with answered := backend.desk.answered ++ [request.split] } :=
  Desk.ext rfl rfl rfl rfl List.map_append

/-- A step of the backend is a step of the desk. -/
theorem step_desk {label : Label ε} (step : Step keccak256 backend label after) :
    backend.desk.Step after.desk := by
  cases label with
  | receive request =>
    obtain rfl := Option.some.inj step
    rw [desk_receive]
    exact Desk.Step.receive request.split
  | handle =>
    obtain ⟨request, rest, front, rfl⟩ := handle_cases step
    have queued : backend.desk.queued = request.split :: rest.map BackendFetchRequest.split :=
      congrArg (List.map BackendFetchRequest.split) front
    rw [onRequest_eq]
    split
    · rw [desk_send]
      exact Desk.Step.answer queued
    · rw [desk_enlist]
      exact Desk.Step.ask queued
  | poll n provider =>
    obtain ⟨key, rest, removed, ⟨-, rfl⟩ | ⟨reply, -, rfl⟩⟩ := pollRequest_cases step
    · have same : (rest ++ [key]).Perm backend.desk.pending :=
        (List.perm_append_singleton key rest).trans (swapRemove_perm removed)
      exact Desk.Step.reorder same
    · rw [desk_notify]
      exact Desk.Step.finish (swapRemove_perm removed)

/-! ### Invariants -/

/-- How often the sender of a request listens to its key. -/
def waits (backend : GlobalBackend ε) (request : BackendFetchRequest) : ℕ :=
  ((backend.listeners request.key).getD []).count request.sender

/-- There is one future for each key with listeners, and each request received is queued, waits or has
been answered, as often as it has been received. -/
structure Deduplicated (backend : GlobalBackend ε) : Prop where
  fetching : ∀ key, (∃ first others, backend.listeners key = some (first :: others))
    ↔ backend.pendingRequests.count key = 1
  once : ∀ key, backend.pendingRequests.count key ≤ 1
  listening : ∀ key, backend.listeners key ≠ some []
  accounted : ∀ request, backend.received.count request
    = backend.queuedRequests.count request + backend.waits request
      + (backend.sent.map Prod.fst).count request

theorem deduplicated_of_settled (settled : backend.desk.Settled) : Deduplicated backend where
  fetching key := (settled.count_eq_one_iff key).symm
  once := List.nodup_iff_count_le_one.mp settled.once
  listening := settled.listening
  accounted request := by
    have counts (requests : List BackendFetchRequest) :
        (requests.map BackendFetchRequest.split).count (request.key, request.sender)
          = requests.count request :=
      List.count_map_of_injective _ _ BackendFetchRequest.split_injective request
    have accounted := settled.accounted request.key request.sender
    have sent : backend.desk.answered = (backend.sent.map Prod.fst).map BackendFetchRequest.split := by
      rw [List.map_map]
      rfl
    rw [sent, counts] at accounted
    rw [← counts backend.received, ← counts backend.queuedRequests]
    exact accounted

/-- What a step does about the answers. -/
inductive Serves (backend : GlobalBackend ε) : Label ε → GlobalBackend ε → Prop
  | received {request : BackendFetchRequest} {after : GlobalBackend ε}
      (sent : after.sent = backend.sent) : Serves backend (.receive request) after
  | cached {request : BackendFetchRequest} {rest : List BackendFetchRequest} {reply : Reply ε}
      {after : GlobalBackend ε} (front : backend.queuedRequests = request :: rest)
      (known : backend.db.cached ε request.key = some reply) (success : ¬ reply.IsError)
      (sent : after.sent = backend.sent ++ [(request, reply)]) : Serves backend .handle after
  | enlisted {request : BackendFetchRequest} {rest : List BackendFetchRequest}
      {after : GlobalBackend ε} (front : backend.queuedRequests = request :: rest)
      (unknown : backend.db.cached ε request.key = none) (sent : after.sent = backend.sent)
      (waits : after.waits request = backend.waits request + 1)
      (starts : backend.listeners request.key = none
        → after.pendingRequests = backend.pendingRequests ++ [request.key]) :
      Serves backend .handle after
  | running {n : ℕ} {provider : Provider ε} {key : FetchRequestFuture} {after : GlobalBackend ε}
      (polled : backend.pendingRequests[n]? = some key) (running : ¬ provider.Done key)
      (sent : after.sent = backend.sent) : Serves backend (.poll n provider) after
  | finished {n : ℕ} {provider : Provider ε} {key : FetchRequestFuture} {reply : Reply ε}
      {after : GlobalBackend ε}
      (polled : backend.pendingRequests[n]? = some key) (done : provider.Done key)
      (failed : reply.IsError ↔ provider.Fails key)
      (sent : after.sent = backend.sent
        ++ ((backend.listeners key).getD []).map fun listener => (key.request listener, reply))
      (removed : after.listeners key = none ∧ key ∉ after.pendingRequests)
      (again : provider.Fails key → after.db = backend.db) : Serves backend (.poll n provider) after

theorem cached_success {db : CacheDb} {key : FetchRequestFuture} {reply : Reply ε}
    (known : db.cached ε key = some reply) : ¬ reply.IsError := by
  cases key <;> obtain ⟨_, -, rfl⟩ := Option.map_eq_some_iff.mp known <;> simp [Reply.IsError]

theorem record_of_isError {db : CacheDb} {key : FetchRequestFuture} {reply : Reply ε}
    (failed : reply.IsError) : db.record key reply = db := by
  rcases reply with (_ | _) | (_ | _) | (_ | _) <;> cases key <;>
    first | rfl | exact absurd failed id

theorem serves {label : Label ε} (settled : backend.desk.Settled)
    (step : Step keccak256 backend label after) : Serves backend label after := by
  cases label with
  | receive request =>
    obtain rfl := Option.some.inj step
    exact .received rfl
  | handle =>
    obtain ⟨request, rest, front, rfl⟩ := handle_cases step
    rw [onRequest_eq]
    rcases known : backend.db.cached ε request.key with _ | reply
    · obtain ⟨-, pending, -, -, sent⟩ :=
        frame_enlist { backend with queuedRequests := rest } request.key request.sender
      refine .enlisted front known sent ?_ fun nobody => pending.trans (if_pos nobody)
      rw [waits, listeners_enlist, Function.update_self]
      exact (List.count_append ..).trans (congrArg _ (List.count_singleton_self ..))
    · exact .cached front known (cached_success known) rfl
  | poll n provider =>
    obtain ⟨key, rest, removed, cases⟩ := pollRequest_cases step
    have polled := swapRemove_item removed
    rcases cases with ⟨called, rfl⟩ | ⟨reply, called, rfl⟩
    · obtain ⟨done, -⟩ := (Provider.gives_of_reply called).spec
      exact .running polled (fun ready => done.mpr ready rfl) rfl
    · obtain ⟨done, failed⟩ := (Provider.gives_of_reply called).spec
      obtain ⟨db, pending, -, -, sent⟩ := frame_notify
        { backend with pendingRequests := rest, db := backend.db.record key reply } key reply
      refine .finished polled (done.mp (by simp)) (failed _ rfl) sent ⟨?_, ?_⟩ fun fails => ?_
      · rw [listeners_notify, Function.update_self]
      · rw [pending]
        exact (List.nodup_cons.mp ((swapRemove_perm removed).nodup_iff.mpr settled.once)).1
      · rw [db]
        exact record_of_isError ((failed _ rfl).mpr fails)

/-! ### No panic -/

theorem received_drain (requests : List BackendFetchRequest) (backend : GlobalBackend ε) :
    (backend.drain requests).received = backend.received := by
  induction requests generalizing backend with
  | nil => rfl
  | cons request rest ih => exact (ih _).trans (frame_onRequest ..).2

theorem received_foldl_receive (arrivals : List BackendFetchRequest) (backend : GlobalBackend ε) :
    (arrivals.foldl receive backend).received = backend.received ++ arrivals := by
  induction arrivals generalizing backend with
  | nil => exact (List.append_nil _).symm
  | cons request rest ih => exact (ih _).trans (List.append_assoc ..)

/-- The keys of the futures have been received. -/
theorem Deduplicated.fits (deduplicated : Deduplicated backend)
    (received : ∀ request ∈ backend.received, request.key.Fits) :
    ∀ key ∈ backend.pendingRequests, key.Fits := by
  intro key pending
  have fetched : backend.pendingRequests.count key = 1 :=
    le_antisymm (deduplicated.once key) (List.count_pos_iff.mpr pending)
  obtain ⟨first, others, listens⟩ := (deduplicated.fetching key).mpr fetched
  have listening : 0 < backend.waits (key.request first) := by
    rw [waits, key.key_request, key.sender_request, listens]
    exact List.count_pos_iff.mpr List.mem_cons_self
  have accounted := deduplicated.accounted (key.request first)
  have mem : key.request first ∈ backend.received := List.count_pos_iff.mp (by omega)
  exact key.key_request first ▸ received _ mem

/-- Polling a request inside the list does not panic, and leaves at most that one out. -/
theorem exists_pollRequest {n : ℕ} {provider : Provider ε} (keccak256 : List Byte → Word)
    (sound : provider.Sound) (inside : n < backend.pendingRequests.length)
    (fits : ∀ key ∈ backend.pendingRequests, key.Fits) :
    ∃ after, backend.pollRequest keccak256 n provider = some after
      ∧ backend.pendingRequests.length ≤ after.pendingRequests.length + 1
      ∧ after.pendingRequests ⊆ backend.pendingRequests := by
  obtain ⟨key, rest, removed⟩ := swapRemove_isSome inside
  have perm := swapRemove_perm removed
  have length := perm.length_eq
  rw [List.length_cons] at length
  obtain ⟨ready, called⟩ := Option.ne_none_iff_exists'.mp
    (sound.reply_ne_none keccak256 (fits key (perm.mem_iff.mp List.mem_cons_self)))
  rw [pollRequest_eq, removed, Option.bind_some]
  simp only [called, Option.map_some]
  refine ⟨_, rfl, ?_⟩
  cases ready with
  | none =>
    simp only [pushPending, List.length_append]
    exact ⟨by omega, ((List.perm_append_singleton key rest).trans perm).subset⟩
  | some reply =>
    have pending := (frame_notify { backend with
      pendingRequests := rest, db := backend.db.record key reply } key reply).2.1
    simp only [pending]
    exact ⟨by omega, fun other mem => perm.subset (List.mem_cons_of_mem key mem)⟩

/-- The loop over the futures stays inside the list and does not panic. -/
theorem pollPending_ne_none (keccak256 : List Byte → Word) (providers : ℕ → Provider ε)
    (sound : ∀ n, (providers n).Sound) (n : ℕ) (backend : GlobalBackend ε)
    (inside : n ≤ backend.pendingRequests.length) (fits : ∀ key ∈ backend.pendingRequests, key.Fits) :
    pollPending keccak256 providers n backend ≠ none := by
  induction n generalizing backend with
  | zero => exact Option.some_ne_none backend
  | succ n ih =>
    obtain ⟨middle, polled, length, subset⟩ :=
      exists_pollRequest keccak256 (sound n) (Nat.lt_of_succ_le inside) fits
    rw [pollPending, polled, Option.bind_some]
    exact ih middle (by omega) fun key mem => fits key (subset mem)

end GlobalBackend

/-! ### Every run -/

open GlobalBackend

section Runs

variable {initialDb : CacheDb} {last : GlobalBackend ε}
  {steps : List (GlobalBackend ε × GlobalBackend.Label ε)}

theorem settled_new (initialDb : CacheDb) : (.new initialDb : GlobalBackend ε).desk.Settled := by
  have empty : (.new initialDb : GlobalBackend ε).desk = Desk.empty :=
    Desk.ext (funext fun key => by cases key <;> rfl) rfl rfl rfl rfl
  rw [empty]
  exact Desk.settled_empty

theorem settled_run (run : BackendRun keccak256 initialDb steps last) :
    last.desk.Settled ∧ Meets (fun backend _ => backend.desk.Settled) steps := by
  have keeps (backend : GlobalBackend ε) (label : Label ε) (after : GlobalBackend ε)
      (settled : backend.desk.Settled) (step : Step keccak256 backend label after) :
      after.desk.Settled := settled.step (step_desk step)
  exact run.invariant (settled_new initialDb) keeps

/-- A reply to a request comes from the cache, or from the completion of the future of its key. -/
def IsAnswered (steps : List (GlobalBackend ε × Label ε)) (request : BackendFetchRequest)
    (reply : Reply ε) : Prop :=
  ∃ taken ∈ steps,
    taken.2 = .handle ∧ taken.1.queuedRequests.head? = some request
      ∧ taken.1.db.cached ε request.key = some reply ∧ ¬ reply.IsError
    ∨ ∃ n provider, taken.2 = .poll n provider
      ∧ taken.1.pendingRequests[n]? = some request.key ∧ provider.Done request.key
      ∧ (reply.IsError ↔ provider.Fails request.key)

/-- What a step sends is answered by the step. -/
theorem GlobalBackend.Serves.isAnswered {backend after : GlobalBackend ε} {label : Label ε}
    (serves : Serves backend label after) : ∀ answer ∈ after.sent, answer ∈ backend.sent
      ∨ IsAnswered [(backend, label)] answer.1 answer.2 := by
  intro answer mem
  cases serves with
  | received sent => exact .inl (sent ▸ mem)
  | cached front known success sent =>
    rw [sent] at mem
    rcases List.mem_append.mp mem with mem | mem
    · exact .inl mem
    · obtain rfl := List.mem_singleton.mp mem
      exact .inr ⟨_, List.mem_singleton_self _,
        .inl ⟨rfl, by rw [front, List.head?_cons], known, success⟩⟩
  | enlisted front unknown sent => exact .inl (sent ▸ mem)
  | running polled running sent => exact .inl (sent ▸ mem)
  | finished polled done failed sent =>
    rw [sent] at mem
    rcases List.mem_append.mp mem with mem | mem
    · exact .inl mem
    · obtain ⟨listener, -, rfl⟩ := List.mem_map.mp mem
      refine .inr ⟨_, List.mem_singleton_self _, .inr ⟨_, _, rfl, ?_⟩⟩
      rw [FetchRequestFuture.key_request]
      exact ⟨polled, done, failed⟩

theorem isAnswered_of_subset {few steps : List (GlobalBackend ε × Label ε)} (subset : few ⊆ steps)
    {request : BackendFetchRequest} {reply : Reply ε} (answered : IsAnswered few request reply) :
    IsAnswered steps request reply := by
  obtain ⟨taken, mem, how⟩ := answered
  exact ⟨taken, subset mem, how⟩

theorem isAnswered_run (run : BackendRun keccak256 initialDb steps last) :
    ∀ answer ∈ last.sent, IsAnswered steps answer.1 answer.2 := by
  induction run with
  | nil => exact fun _ mem => absurd mem List.not_mem_nil
  | snoc run taken ih =>
    intro answer mem
    rcases (serves (settled_run run).1 taken).isAnswered answer mem with earlier | here
    · exact isAnswered_of_subset (List.subset_append_left ..) (ih answer earlier)
    · exact isAnswered_of_subset (List.subset_append_right ..) here

/-- From a state of a run, a round of the loop does not panic when the block numbers fit. -/
theorem round_ne_none (run : BackendRun keccak256 initialDb steps last) (round : Round ε)
    (fits : ∀ request ∈ last.received ++ round.arrivals, request.key.Fits)
    (sound : ∀ n, (round.providers n).Sound) : last.round keccak256 round ≠ none := by
  obtain ⟨_, arrived⟩ := arrivals_run keccak256 last round.arrivals
  have deduplicated := deduplicated_of_settled (settled_run (run.append arrived)).1
  refine pollPending_ne_none keccak256 _ sound _ _ le_rfl (deduplicated.fits ?_)
  rw [received_foldl_receive, received_drain]
  exact fits

/-- What holds in a run: there is one future for each key with listeners and every request received is
accounted for, each step serves the requests as `Serves` says, each answer has come from the cache or
from the completion of a future, and no call of `poll` panics when the block numbers fit. -/
structure Deduplicates (keccak256 : List Byte → Word) (steps : List (GlobalBackend ε × Label ε))
    (last : GlobalBackend ε) : Prop where
  final : Deduplicated last
  visited : Meets (fun backend label => Deduplicated backend
    ∧ ∀ after, Step keccak256 backend label after → Serves backend label after) steps
  answered : ∀ answer ∈ last.sent, IsAnswered steps answer.1 answer.2
  proceeds : ∀ round : Round ε, (∀ request ∈ last.received ++ round.arrivals, request.key.Fits) →
    (∀ n, (round.providers n).Sound) → last.round keccak256 round ≠ none

/-- In every run, the deduplication loses and duplicates nothing. -/
theorem deduplicated_run (run : BackendRun keccak256 initialDb steps last) :
    Deduplicates keccak256 steps last where
  final := deduplicated_of_settled (settled_run run).1
  visited taken mem := by
    have settled := (settled_run run).2 taken mem
    exact ⟨deduplicated_of_settled settled, fun after step => serves settled step⟩
  answered := isAnswered_run run
  proceeds round fits sound := round_ne_none run round fits sound

/-- The account of the token. -/
def usdcAccount : Address := 0xA0b86991c6218b36c1d19D4a2e9Eb0cE3606eB48

end Runs

end Sando.ForkedDb
