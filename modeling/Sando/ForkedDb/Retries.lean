/-
Requests behind a failed fetch.

A failed fetch leaves its key without listeners, so that the next request for the key should start a
new fetch (`Retries`). For slots and block hashes it does. The cache answers a request for the info of
an account from its entry, and a slot that is recorded makes an entry: when the fetch of the account has
failed, its info is answered with the default one and never fetched. `KeepsRetries` is the condition on a
completion under which this does not happen, and `retries_iff` proves that the runs in which failed
fetches are always retried are those whose steps all meet it.
-/

import Sando.ForkedDb.RequestOrder

namespace Sando.ForkedDb

open Sando.Evm Sando.Program CacheDb GlobalBackend

variable {ε : Type} {keccak256 : List Byte → Word}

/-! ### Failed fetches -/

namespace GlobalBackend

/-- The last reply to a request for a key. -/
def lastReply (backend : GlobalBackend ε) (key : FetchRequestFuture) : Option (Reply ε) :=
  (backend.sent.reverse.find? fun answer => answer.1.key = key).map Prod.snd

/-- The last fetch of a key has failed, and nobody has asked for the key since. -/
structure Failed (backend : GlobalBackend ε) (key : FetchRequestFuture) : Prop where
  failed : ∃ reply, backend.lastReply key = some reply ∧ reply.IsError
  nobody : backend.listeners key = none

/-- A request for a key whose fetch has failed starts a new fetch, and sends nothing. -/
def Retries (backend : GlobalBackend ε) : Prop :=
  ∀ request : BackendFetchRequest, Failed backend request.key →
    (backend.onRequest request).pendingRequests = backend.pendingRequests ++ [request.key]
    ∧ (backend.onRequest request).sent = backend.sent

/-- The fetch of an account fails only while the account has no entry, and a slot of an account is
recorded only while the fetch of the account has not failed. -/
def KeepsRetries (backend : GlobalBackend ε) : Label ε → Prop
  | .poll n provider =>
    (∀ address, backend.pendingRequests[n]? = some (.basic address) → provider.Fails (.basic address)
      → backend.db.accounts address = none)
    ∧ ∀ address index value, backend.pendingRequests[n]? = some (.storage address index)
      → provider.getStorageAt address index = some (.ok value) → ¬ Failed backend (.basic address)
  | _ => True

/-! ### The log -/

section Log

variable {backend : GlobalBackend ε} {key : FetchRequestFuture} {reply : Reply ε}

theorem lastReply_send (request : BackendFetchRequest) :
    (backend.send request reply).lastReply key
      = if request.key = key then some reply else backend.lastReply key := by
  unfold lastReply send
  rw [List.reverse_concat, List.find?_cons]
  by_cases same : request.key = key <;> simp [same]

/-- The reply to the listeners of a key is the last one for the key. -/
theorem lastReply_notify {first : Sender} {others : List Sender}
    (listening : backend.listeners key = some (first :: others)) (other : FetchRequestFuture) :
    (backend.notify key reply).lastReply other
      = if key = other then some reply else backend.lastReply other := by
  obtain ⟨-, -, -, -, sent⟩ := backend.frame_notify key reply
  rw [listening, Option.getD_some] at sent
  unfold lastReply
  rw [sent, List.reverse_append, List.find?_append]
  rcases found : (((first :: others).map fun listener => (key.request listener, reply)).reverse).find?
    (fun answer => decide (answer.1.key = other)) with _ | answer
  · have asked : (key.request first, reply)
        ∈ ((first :: others).map fun listener => (key.request listener, reply)).reverse :=
      List.mem_reverse.mpr List.mem_cons_self
    have apart : ¬ key = other := by simpa using List.find?_eq_none.mp found _ asked
    rw [found, if_neg apart, Option.none_or]
  · obtain ⟨listener, -, rfl⟩ := List.mem_map.mp (List.mem_reverse.mp (List.mem_of_find?_eq_some found))
    have same : key = other := by simpa using List.find?_some found
    rw [found, if_pos same, Option.some_or, Option.map_some]

end Log

/-! ### Steps -/

/-- Failed fetches are retried exactly when the cache does not know their keys. -/
theorem retries_iff_unknown {backend : GlobalBackend ε} :
    Retries backend ↔ ∀ key, Failed backend key → backend.db.cached ε key = none := by
  constructor
  · intro retries key failed
    obtain ⟨-, sent⟩ := retries (key.request 0) (by rwa [key.key_request])
    rw [onRequest_eq, key.key_request] at sent
    rcases known : backend.db.cached ε key with _ | reply
    · rfl
    · rw [known] at sent
      exact absurd sent (by simp [send])
  · intro unknown request failed
    obtain ⟨-, pending, -, -, sent⟩ := backend.frame_enlist request.key request.sender
    rw [onRequest_eq, unknown _ failed]
    rw [if_pos failed.nobody] at pending
    exact ⟨pending, sent⟩

/-- A reply changes what the cache knows about its own key, and a slot what it knows about the account. -/
theorem cached_record_of_ne {db : CacheDb} {key other : FetchRequestFuture} {reply : Reply ε}
    (apart : other ≠ key) (elsewhere : ∀ address index, key = .storage address index →
      other ≠ .basic address) : (db.record key reply).cached ε other = db.cached ε other := by
  unfold CacheDb.record
  split
  · rw [cached_insertAccountInfo, if_neg apart]
  · rw [cached_insertAccountStorage, if_neg apart, if_neg fun made => elsewhere _ _ rfl made.1]
  · rw [cached_insertBlockHash, if_neg apart]
  · rfl

/-- No slot or block hash is fetched that the cache knows. -/
def Missing (backend : GlobalBackend ε) : Prop :=
  ∀ key ∈ backend.pendingRequests, ¬ key.IsBasic → backend.db.cached ε key = none

section Steps

variable {backend after : GlobalBackend ε} {label : Label ε}

theorem Missing.step (missing : Missing backend) (settled : backend.desk.Settled)
    (step : Step keccak256 backend label after) : Missing after := by
  cases label with
  | receive request =>
    obtain rfl := Option.some.inj step
    exact missing
  | handle =>
    obtain ⟨request, rest, -, rfl⟩ := handle_cases step
    rw [onRequest_eq]
    split
    · exact missing
    · next unknown =>
      obtain ⟨db, pending, -⟩ :=
        frame_enlist { backend with queuedRequests := rest } request.key request.sender
      intro key mem slot
      rw [db]
      rw [pending] at mem
      split at mem
      · rcases List.mem_append.mp mem with earlier | same
        · exact missing key earlier slot
        · obtain rfl := List.mem_singleton.mp same
          exact unknown
      · exact missing key mem slot
  | poll n provider =>
    obtain ⟨key, rest, removed, ⟨-, rfl⟩ | ⟨reply, -, rfl⟩⟩ := pollRequest_cases step
    · have same := (List.perm_append_singleton key rest).trans (swapRemove_perm removed)
      exact fun other mem => missing other (same.subset mem)
    · have perm := swapRemove_perm removed
      have once := List.nodup_cons.mp (perm.nodup_iff.mpr settled.once)
      obtain ⟨db, pending, -⟩ := frame_notify
        { backend with pendingRequests := rest, db := backend.db.record key reply } key reply
      intro other mem slot
      rw [pending] at mem
      have apart : other ≠ key := fun same => once.1 (same ▸ mem)
      rw [db, cached_record_of_ne apart fun address _ _ basic => slot (basic ▸ trivial)]
      exact missing other (perm.subset (List.mem_cons_of_mem key mem)) slot

/-- Behind a reply, its key has failed when the reply is an error, and the other keys as before. -/
theorem failed_notify_iff {key other : FetchRequestFuture} {reply : Reply ε}
    (listening : ∃ first others, backend.listeners key = some (first :: others)) :
    Failed (backend.notify key reply) other
      ↔ if other = key then reply.IsError else Failed backend other := by
  obtain ⟨first, others, listening⟩ := listening
  have lastReply : (backend.notify key reply).lastReply other = _ := lastReply_notify listening other
  have listeners := congrFun (backend.listeners_notify key reply) other
  rw [Function.update_apply] at listeners
  split
  · next same =>
    rw [if_pos same.symm] at lastReply
    rw [if_pos same] at listeners
    refine ⟨fun failed => ?_, fun failed => ⟨⟨reply, lastReply, failed⟩, listeners⟩⟩
    obtain ⟨last, sent, failed⟩ := failed.failed
    rw [lastReply] at sent
    exact Option.some.inj sent ▸ failed
  · next apart =>
    rw [if_neg fun same => apart same.symm] at lastReply
    rw [if_neg apart] at listeners
    constructor
    · rintro ⟨failed, nobody⟩
      exact ⟨lastReply ▸ failed, listeners ▸ nobody⟩
    · rintro ⟨failed, nobody⟩
      exact ⟨lastReply.symm ▸ failed, listeners.trans nobody⟩

/-- So it is behind a completion, which has taken the future and recorded the reply. -/
theorem failed_complete_iff {key other : FetchRequestFuture} {reply : Reply ε}
    {rest : List FetchRequestFuture} {db : CacheDb}
    (listening : ∃ first others, backend.listeners key = some (first :: others)) :
    Failed ({ backend with pendingRequests := rest, db }.notify key reply) other
      ↔ if other = key then reply.IsError else Failed backend other := by
  have same : Failed { backend with pendingRequests := rest, db } other ↔ Failed backend other :=
    ⟨fun failed => ⟨failed.failed, by cases other <;> exact failed.nobody⟩,
      fun failed => ⟨failed.failed, by cases other <;> exact failed.nobody⟩⟩
  rw [failed_notify_iff (by cases key <;> exact listening), same]

/-- Behind a request, a key that has failed had failed before. -/
theorem failed_onRequest {request : BackendFetchRequest} {key : FetchRequestFuture}
    (failed : Failed (backend.onRequest request) key) :
    Failed backend key ∧ (backend.onRequest request).db = backend.db := by
  rw [onRequest_eq] at failed ⊢
  rcases known : backend.db.cached ε request.key with _ | reply
  · rw [known] at failed
    obtain ⟨db, -, -, -, sent⟩ := backend.frame_enlist request.key request.sender
    have nobody := failed.nobody
    simp only [listeners_enlist, Function.update_apply] at nobody
    split at nobody
    · exact absurd nobody (by simp)
    · refine ⟨⟨?_, nobody⟩, db⟩
      have failed := failed.failed
      rw [lastReply, sent] at failed
      exact failed
  · rw [known] at failed
    obtain ⟨last, sent, error⟩ := failed.failed
    simp only [lastReply_send] at sent
    split at sent
    · obtain rfl := Option.some.inj sent
      exact absurd error (cached_success known)
    · exact ⟨⟨⟨last, sent, error⟩, failed.nobody⟩, rfl⟩

/-- A completion keeps failed fetches retried exactly when it meets the condition. -/
theorem retries_notify_iff (missing : Missing backend) (retries : Retries backend) {n : ℕ}
    {provider : Provider ε} {key : FetchRequestFuture} {reply : Reply ε}
    {rest : List FetchRequestFuture} (polled : backend.pendingRequests[n]? = some key)
    (gives : provider.Gives keccak256 key (some reply))
    (listening : ∃ first others, backend.listeners key = some (first :: others)) :
    Retries ({ backend with pendingRequests := rest, db := backend.db.record key reply }.notify key reply)
      ↔ KeepsRetries backend (.poll n provider) := by
  have before := retries_iff_unknown.mp retries
  have fails := gives.spec.2 reply rfl
  rw [retries_iff_unknown]
  simp only [failed_complete_iff listening, (frame_notify _ key reply).1, KeepsRetries, polled,
    Option.some.injEq]
  constructor
  · intro unknown
    refine ⟨?_, ?_⟩
    · rintro address rfl failing
      have error := fails.mpr failing
      have absent := unknown (.basic address) (by rwa [if_pos rfl])
      rw [record_of_isError error] at absent
      exact Option.map_eq_none_iff.mp absent
    · rintro address index value rfl arrived failed
      have absent : backend.db.accounts address = none := Option.map_eq_none_iff.mp (before _ failed)
      have made := unknown (.basic address) (by rwa [if_neg (by simp)])
      cases gives with
      | storageError called => exact absurd (called.symm.trans arrived) (by simp)
      | storage called =>
        rw [CacheDb.record, cached_insertAccountStorage, if_neg (by simp), if_pos ⟨rfl, absent⟩] at made
        exact absurd made (by simp)
  · rintro ⟨fetched, recorded⟩ other failed
    by_cases error : reply.IsError
    · rw [record_of_isError error]
      split at failed
      · next same =>
        subst same
        cases other with
        | basic address => exact Option.map_eq_none_iff.mpr (fetched address rfl (fails.mp error))
        | storage | blockHash => exact missing _ (List.mem_of_getElem? polled) id
      · exact before other failed
    · split at failed
      · exact absurd failed error
      · next apart =>
        rw [cached_record_of_ne apart]
        · exact before other failed
        · rintro address index rfl rfl
          cases gives with
          | storageError => exact error trivial
          | storage called => exact recorded address index _ rfl called failed

/-- A step keeps failed fetches retried exactly when it meets the condition. -/
theorem retries_step_iff (settled : backend.desk.Settled) (missing : Missing backend)
    (retries : Retries backend) (step : Step keccak256 backend label after) :
    Retries after ↔ KeepsRetries backend label := by
  have before := retries_iff_unknown.mp retries
  cases label with
  | receive request =>
    obtain rfl := Option.some.inj step
    exact iff_of_true (retries_iff_unknown.mpr fun key failed => before key ⟨failed.failed, failed.nobody⟩)
      trivial
  | handle =>
    obtain ⟨request, rest, -, rfl⟩ := handle_cases step
    refine iff_of_true (retries_iff_unknown.mpr fun key failed => ?_) trivial
    obtain ⟨failed, db⟩ := failed_onRequest failed
    rw [db]
    exact before key ⟨failed.failed, failed.nobody⟩
  | poll n provider =>
    obtain ⟨key, rest, removed, ⟨called, rfl⟩ | ⟨reply, called, rfl⟩⟩ := pollRequest_cases step
    · have running : ¬ provider.Done key := fun done => (Provider.gives_of_reply called).spec.1.mpr done rfl
      refine iff_of_true (retries_iff_unknown.mpr fun key failed =>
        before key ⟨failed.failed, failed.nobody⟩) ⟨?_, ?_⟩
      · rintro address polled ⟨err, failed⟩
        obtain rfl := Option.some.inj ((swapRemove_item removed).symm.trans polled)
        exact absurd (Option.ne_none_iff_exists'.mpr ⟨_, failed⟩) running
      · rintro address index value polled arrived
        obtain rfl := Option.some.inj ((swapRemove_item removed).symm.trans polled)
        exact absurd (Option.ne_none_iff_exists'.mpr ⟨_, arrived⟩) running
    · have pending : key ∈ backend.pendingRequests :=
        (swapRemove_perm removed).subset List.mem_cons_self
      have listening := (settled.count_eq_one_iff key).mp (List.count_eq_one_of_mem settled.once pending)
      exact retries_notify_iff missing retries (swapRemove_item removed)
        (Provider.gives_of_reply called) listening

end Steps

end GlobalBackend

/-! ### Every run -/

section Runs

variable {initialDb : CacheDb} {steps : List (GlobalBackend ε × Label ε)} {last : GlobalBackend ε}

/-- What the steps keep, whether or not failed fetches are retried. -/
structure Steady (backend : GlobalBackend ε) : Prop where
  settled : backend.desk.Settled
  missing : Missing backend

theorem steady_new (initialDb : CacheDb) : Steady (.new initialDb : GlobalBackend ε) :=
  ⟨settled_new initialDb, fun _ mem => absurd mem List.not_mem_nil⟩

theorem Steady.step {backend after : GlobalBackend ε} {label : Label ε} (steady : Steady backend)
    (step : Step keccak256 backend label after) : Steady after :=
  ⟨steady.settled.step (step_desk step), steady.missing.step steady.settled step⟩

theorem retries_new (initialDb : CacheDb) : Retries (.new initialDb : GlobalBackend ε) := by
  intro request failed
  obtain ⟨reply, sent, -⟩ := failed.failed
  exact absurd sent (by simp [lastReply, GlobalBackend.new])

/-- In every run, there is exactly one future for each key with listeners, every request received is
queued, waits or has been answered once, and each answer comes from the cache or from the completion of
a future; and in all states a request for a key whose fetch has failed starts a new fetch exactly when
no account fails that has an entry and no slot is recorded for an account that has failed. -/
theorem retries_iff (keccak256 : List Byte → Word) (initialDb : CacheDb)
    (steps : List (GlobalBackend ε × Label ε)) (last : GlobalBackend ε)
    (run : BackendRun keccak256 initialDb steps last) :
    Deduplicates keccak256 steps last
    ∧ (Meets (fun backend _ => Retries backend) steps ∧ Retries last ↔ Meets KeepsRetries steps) := by
  refine ⟨deduplicated_run run, fun ⟨visited, final⟩ => ?_, fun keeps => ?_⟩
  · obtain ⟨steady, always⟩ := run.invariant (steady_new initialDb) fun _ _ _ => Steady.step
    have both : Meets (fun backend _ => Steady backend ∧ Retries backend) steps :=
      fun taken mem => ⟨always taken mem, visited taken mem⟩
    refine run.meets_of_invariant ?_ both ⟨steady, final⟩
    rintro backend label after ⟨steady, retries⟩ step ⟨-, after⟩
    exact (retries_step_iff steady.settled steady.missing retries step).mp after
  · have preserved (backend : GlobalBackend ε) (label : Label ε) (after : GlobalBackend ε)
        (before : Steady backend ∧ Retries backend) (keeps : KeepsRetries backend label)
        (step : Step keccak256 backend label after) : Steady after ∧ Retries after :=
      ⟨before.1.step step,
        (retries_step_iff before.1.settled before.1.missing before.2 step).mpr keeps⟩
    obtain ⟨⟨-, final⟩, visited⟩ :=
      run.invariant_of_meets ⟨steady_new initialDb, retries_new initialDb⟩ preserved keeps
    exact ⟨fun taken mem => (visited taken mem).2, final⟩

/-- A provider that cannot be reached. -/
def offline : Provider Unit where
  getAccount _ := some (.error ())
  getStorageAt _ _ := some (.error ())
  getBlock _ := some (.error ())

/-- The fetch of the token fails for two requests, and a third one starts it again. -/
theorem retries_iff_usdc :
    ∃ (steps : List (GlobalBackend Unit × Label Unit)) (last : GlobalBackend Unit),
      BackendRun (fun _ => 0) emptyDb steps last
      ∧ last.sent.map Prod.fst = [.basic usdcAccount 0, .basic usdcAccount 1]
      ∧ last.pendingRequests = [.basic usdcAccount]
      ∧ Deduplicated last
      ∧ Meets (fun backend _ => Retries backend) steps := by
  obtain ⟨steps, run, calm⟩ := Run.exists_of_checked (GlobalBackend.next · (fun _ => 0))
    (fun backend _ => (backend.db.accounts usdcAccount).isNone = true
      ∧ ∀ key ∈ backend.pendingRequests, key = .basic usdcAccount) (.new emptyDb) _
    [.receive (.basic usdcAccount 0), .receive (.basic usdcAccount 1), .handle, .handle,
      .poll 0 offline, .receive (.basic usdcAccount 2), .handle] rfl
  have keeps : Meets KeepsRetries steps := by
    rintro ⟨backend, label⟩ mem
    obtain ⟨absent, pending⟩ := calm _ mem
    cases label with
    | receive | handle => trivial
    | poll n provider =>
      refine ⟨fun address polled _ => ?_, fun address index value polled => ?_⟩
      · obtain rfl := FetchRequestFuture.basic.inj (pending _ (List.mem_of_getElem? polled))
        exact Option.isNone_iff_eq_none.mp absent
      · exact absurd (pending _ (List.mem_of_getElem? polled)) (by simp)
  obtain ⟨deduplicates, retries⟩ := retries_iff _ _ _ _ run
  exact ⟨steps, _, run, rfl, rfl, deduplicates.final, (retries.mpr keeps).1⟩

/-- A slot of the token arrives, the fetch of its info fails, and the next request for its info is
answered with no balance. -/
theorem not_retries_usdc :
    ∃ (steps : List (GlobalBackend Unit × Label Unit)) (last : GlobalBackend Unit),
      BackendRun (fun _ => 0) emptyDb steps last
      ∧ last.sent = [(.storage usdcAccount 3 1, .storage (.ok 7)),
        (.basic usdcAccount 0, .basic (.error (.getAccount usdcAccount ()))),
        (.basic usdcAccount 2, .basic (.ok .default))]
      ∧ last.pendingRequests = []
      ∧ ¬ Meets (fun backend _ => Retries backend) steps := by
  obtain ⟨steps, -, run⟩ := Run.exists_of_foldlM (GlobalBackend.next · (fun _ => 0)) (.new emptyDb) _
    [.receive (.basic usdcAccount 0), .receive (.storage usdcAccount 3 1), .handle, .handle,
      .poll 1 sevenProvider, .poll 0 offline] rfl
  refine ⟨_, _, (run.take (.receive (.basic usdcAccount 2)) rfl).take .handle rfl, rfl, rfl,
    fun retries => ?_⟩
  have failed := retries_iff_unknown.mp (retries _ (List.mem_append_left _ List.mem_concat_self))
    (.basic usdcAccount) ⟨⟨_, rfl, trivial⟩, rfl⟩
  exact Bool.noConfusion (congrArg Option.isSome failed)

end Runs

end Sando.ForkedDb
