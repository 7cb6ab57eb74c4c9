/-
What a call of poll polls.

A waker is registered where something is polled and not ready. Here a call of `poll` keeps a log of the
futures it creates and of everything it polls, the incoming channel included (`Traced`); without the
log it is the `poll` of the backend (`poll_refines`). One pass over the pending futures polls each of
them once and keeps those that are not ready (`pollPending_spec`). Futures are created at the top of the
loop only, so that when the call returns pending, everything that can wake it up has been polled since:
`misses_no_wake_up`.
-/

import Sando.ForkedDb.Deduplication
import Sando.Program.Sweep

namespace Sando.ForkedDb

open Sando.Evm Sando.Program CacheDb

variable {ε : Type}

/-! ### Traces -/

/-- What polling the incoming channel gives. -/
inductive Incoming
  | request (request : BackendFetchRequest)
  | closed
  | pending

/-- What a call of `poll` returns. -/
inductive Poll
  | ready
  | pending

inductive Event
  /-- The channel was polled. -/
  | incoming (answer : Incoming)
  /-- A future was created and put behind the others. -/
  | pushed (future : FetchRequestFuture)
  /-- A future was polled. -/
  | polled (future : FetchRequestFuture) (isReady : Bool)

/-- A backend, and what has been created and polled so far. -/
structure Traced (ε : Type) extends GlobalBackend ε where
  events : List Event

/-- What happens around one round of the loop: what the channel gives, poll by poll, and what the
provider gives when the request at an index is polled. -/
structure Turn (ε : Type) where
  answers : List Incoming
  providers : ℕ → Provider ε

/-- Whether a polled future is ready. -/
def Provider.isReady (keccak256 : List Byte → Word) (provider : Provider ε)
    (future : FetchRequestFuture) : Bool :=
  match provider.reply keccak256 future with
  | some (some _) => true
  | _ => false

/-- The future that a request creates: none when the cache has the answer or somebody waits for it. -/
def GlobalBackend.started (backend : GlobalBackend ε) (request : BackendFetchRequest) :
    Option FetchRequestFuture :=
  if (backend.db.cached ε request.key).isNone && (backend.listeners request.key).isNone then
    some request.key
  else none

namespace Traced

/-- Drain queued requests. -/
def drain (traced : Traced ε) : List BackendFetchRequest → Traced ε
  | [] => { traced with queuedRequests := [] }
  | request :: rest =>
    let backend := { traced.toGlobalBackend with queuedRequests := rest }
    drain ⟨backend.onRequest request,
      traced.events ++ (backend.started request).toList.map .pushed⟩ rest

/-- Receive new requests until there are none. -/
def receiveNew (traced : Traced ε) : List Incoming → Option (Poll × Traced ε)
  | [] => none
  | .request request :: answers =>
    receiveNew ⟨traced.receive request, traced.events ++ [.incoming (.request request)]⟩ answers
  | .closed :: _ => some (.ready, { traced with events := traced.events ++ [.incoming .closed] })
  | .pending :: _ => some (.pending, { traced with events := traced.events ++ [.incoming .pending] })

/-- Poll the requests below an index, from the last to the first. -/
def pollPending (keccak256 : List Byte → Word) (providers : ℕ → Provider ε) :
    ℕ → Traced ε → Option (Traced ε)
  | 0, traced => some traced
  | n + 1, traced =>
    (swapRemove traced.pendingRequests n).bind fun (future, _) =>
      (traced.pollRequest keccak256 n (providers n)).bind fun backend =>
        pollPending keccak256 providers n
          ⟨backend, traced.events ++ [.polled future ((providers n).isReady keccak256 future)]⟩

/-- One round of the loop. A closed channel ends the call. -/
def turn (keccak256 : List Byte → Word) (turn : Turn ε) (traced : Traced ε) :
    Option (Poll × Traced ε) :=
  ((traced.drain traced.queuedRequests).receiveNew turn.answers).bind fun
    | (.ready, traced) => some (.ready, traced)
    | (.pending, traced) =>
      (traced.pollPending keccak256 turn.providers traced.pendingRequests.length).map (.pending, ·)

/-- A call of `poll` through some rounds. -/
def poll (keccak256 : List Byte → Word) : List (Turn ε) → Traced ε → Option (Poll × Traced ε)
  | [], _ => none
  | turn :: turns, traced =>
    (traced.turn keccak256 turn).bind fun
      | (.ready, traced) => some (.ready, traced)
      | (.pending, traced) =>
        if traced.queuedRequests = [] then some (.pending, traced) else poll keccak256 turns traced

end Traced

/-! ### Without the log -/

section Untraced

variable {keccak256 : List Byte → Word}

/-- The log names the futures that a request creates. -/
theorem GlobalBackend.pendingRequests_onRequest (backend : GlobalBackend ε)
    (request : BackendFetchRequest) : (backend.onRequest request).pendingRequests
      = backend.pendingRequests ++ (backend.started request).toList := by
  rw [onRequest_eq, started]
  cases backend.db.cached ε request.key with
  | some reply => exact (List.append_nil _).symm
  | none =>
    show (backend.enlist request.key request.sender).pendingRequests = _
    rw [(backend.frame_enlist request.key request.sender).2.1]
    cases backend.listeners request.key with
    | some listeners => exact (List.append_nil _).symm
    | none => rfl

namespace Traced

theorem drain_toGlobalBackend (requests : List BackendFetchRequest) (traced : Traced ε) :
    (traced.drain requests).toGlobalBackend = traced.toGlobalBackend.drain requests := by
  induction requests generalizing traced with
  | nil => rfl
  | cons request rest ih => exact ih _

/-- The channel was polled until it had nothing more. -/
theorem receiveNew_pending {answers : List Incoming} {traced after : Traced ε}
    (received : traced.receiveNew answers = some (.pending, after)) :
    ∃ arrivals : List BackendFetchRequest,
      after.toGlobalBackend = arrivals.foldl GlobalBackend.receive traced.toGlobalBackend
      ∧ after.events = traced.events ++ arrivals.map (fun request => .incoming (.request request))
        ++ [.incoming .pending] := by
  induction answers generalizing traced with
  | nil => exact absurd received (by simp [receiveNew])
  | cons answer answers ih =>
    cases answer with
    | request request =>
      obtain ⟨arrivals, backend, events⟩ := ih received
      refine ⟨request :: arrivals, backend, ?_⟩
      rw [events, List.map_cons, List.append_assoc traced.events]
      rfl
    | closed => exact absurd received (by simp [receiveNew])
    | pending =>
      obtain rfl := (Prod.mk.inj (Option.some.inj received)).2
      exact ⟨[], rfl, by simp⟩

theorem pollPending_toGlobalBackend (providers : ℕ → Provider ε) (n : ℕ) (traced : Traced ε) :
    (traced.pollPending keccak256 providers n).map toGlobalBackend
      = GlobalBackend.pollPending keccak256 providers n traced.toGlobalBackend := by
  induction n generalizing traced with
  | zero => rfl
  | succ n ih =>
    rw [pollPending, GlobalBackend.pollPending]
    cases removed : swapRemove traced.pendingRequests n with
    | none => rw [GlobalBackend.pollRequest_eq, removed]; rfl
    | some taken =>
      cases traced.pollRequest keccak256 n (providers n) with
      | none => rfl
      | some backend => exact ih _

/-- What happens in a round that does not end the call. -/
theorem turn_pending {turn : Turn ε} {traced after : Traced ε}
    (taken : traced.turn keccak256 turn = some (.pending, after)) :
    ∃ (arrivals : List BackendFetchRequest) (received : Traced ε),
      received.toGlobalBackend = arrivals.foldl GlobalBackend.receive
        (traced.toGlobalBackend.drain traced.queuedRequests)
      ∧ (∃ before, received.events = before ++ [.incoming .pending])
      ∧ received.pollPending keccak256 turn.providers received.pendingRequests.length = some after := by
  unfold Traced.turn at taken
  obtain ⟨⟨returned, received⟩, channel, rest⟩ := Option.bind_eq_some_iff.mp taken
  cases returned with
  | ready => exact absurd (Option.some.inj rest) (by simp)
  | pending =>
    obtain ⟨last, polled, same⟩ := Option.map_eq_some_iff.mp rest
    obtain rfl := (Prod.mk.inj same).2
    obtain ⟨arrivals, backend, events⟩ := receiveNew_pending channel
    rw [drain_toGlobalBackend] at backend
    exact ⟨arrivals, received, backend, ⟨_, events⟩, polled⟩

/-- A call that returns pending is a call of `poll` of the backend. -/
theorem poll_refines {turns : List (Turn ε)} {traced after : Traced ε}
    (polled : traced.poll keccak256 turns = some (.pending, after)) : ∃ rounds,
      GlobalBackend.poll keccak256 rounds traced.toGlobalBackend = some after.toGlobalBackend := by
  induction turns generalizing traced with
  | nil => exact absurd polled (by simp [poll])
  | cons turn turns ih =>
    obtain ⟨⟨returned, middle⟩, taken, rest⟩ := Option.bind_eq_some_iff.mp polled
    cases returned with
    | ready => exact absurd (Option.some.inj rest) (by simp)
    | pending =>
      obtain ⟨arrivals, received, backend, -, swept⟩ := turn_pending taken
      have round : GlobalBackend.round traced.toGlobalBackend keccak256 ⟨arrivals, turn.providers⟩
          = some middle.toGlobalBackend := by
        unfold GlobalBackend.round
        show GlobalBackend.pollPending keccak256 turn.providers _ _ = _
        rw [← backend, ← pollPending_toGlobalBackend, swept]
        rfl
      have next : (if middle.queuedRequests = [] then some (Poll.pending, middle)
        else poll keccak256 turns middle) = some (.pending, after) := rest
      by_cases idle : middle.queuedRequests = []
      · rw [if_pos idle] at next
        obtain rfl := (Prod.mk.inj (Option.some.inj next)).2
        refine ⟨[⟨arrivals, turn.providers⟩], ?_⟩
        rw [GlobalBackend.poll, round, Option.bind_some, if_pos idle]
      · rw [if_neg idle] at next
        obtain ⟨rounds, others⟩ := ih next
        refine ⟨⟨arrivals, turn.providers⟩ :: rounds, ?_⟩
        rw [GlobalBackend.poll, round, Option.bind_some, if_neg idle, others]

end Traced

end Untraced

/-! ### One pass -/

section Pass

variable {keccak256 : List Byte → Word}

/-- Polling a request changes nothing but its own place among the pending ones. -/
theorem GlobalBackend.frame_pollRequest {backend after : GlobalBackend ε} {n : ℕ} {provider : Provider ε}
    (polled : backend.pollRequest keccak256 n provider = some after) : ∃ future rest,
      swapRemove backend.pendingRequests n = some (future, rest)
      ∧ after.pendingRequests
        = (if provider.isReady keccak256 future then rest else rest ++ [future])
      ∧ after.queuedRequests = backend.queuedRequests := by
  obtain ⟨future, rest, removed, waits | ⟨reply, ready, rfl⟩⟩ := pollRequest_cases polled
  · obtain ⟨waiting, rfl⟩ := waits
    have isReady : provider.isReady keccak256 future = false := by
      rw [Provider.isReady, waiting]
    refine ⟨future, rest, removed, ?_, rfl⟩
    rw [isReady]
    rfl
  · have isReady : provider.isReady keccak256 future = true := by
      rw [Provider.isReady, ready]
    obtain ⟨-, pending, queued, -⟩ := frame_notify { backend with
      pendingRequests := rest, db := backend.db.record future reply } future reply
    refine ⟨future, rest, removed, ?_, queued⟩
    rw [isReady, pending]
    rfl

namespace Traced

/-- The polls of a pass over pending futures. -/
def polls (keccak256 : List Byte → Word) (providers : ℕ → Provider ε)
    (pending : List FetchRequestFuture) : List (Polled FetchRequestFuture) :=
  pollsOf (fun n => (providers n).isReady keccak256) pending

/-- A pass: each pending future was polled once, in reverse order, those that were ready are gone and
all others are there. -/
structure PolledOnce (keccak256 : List Byte → Word) (providers : ℕ → Provider ε)
    (before after : Traced ε) : Prop where
  each : (polls keccak256 providers before.pendingRequests).map Prod.fst
    = before.pendingRequests.reverse
  events : after.events = before.events
    ++ (polls keccak256 providers before.pendingRequests).map fun poll => .polled poll.1 poll.2
  kept : after.pendingRequests.Perm (unready (polls keccak256 providers before.pendingRequests))
  queued : after.queuedRequests = before.queuedRequests

/-- The pending futures of a pass are those of a sweep. -/
theorem pollPending_sweep (providers : ℕ → Provider ε) (n : ℕ) {traced after : Traced ε}
    (polled : traced.pollPending keccak256 providers n = some after) : ∃ polls,
      sweep (fun n => (providers n).isReady keccak256) n traced.pendingRequests
        = some (after.pendingRequests, polls)
      ∧ after.events = traced.events ++ polls.map (fun poll => .polled poll.1 poll.2)
      ∧ after.queuedRequests = traced.queuedRequests := by
  induction n generalizing traced with
  | zero =>
    obtain rfl := Option.some.inj polled
    exact ⟨[], rfl, (List.append_nil _).symm, rfl⟩
  | succ n ih =>
    obtain ⟨⟨future, rest⟩, removed, polled⟩ := Option.bind_eq_some_iff.mp polled
    obtain ⟨backend, asked, polled⟩ := Option.bind_eq_some_iff.mp polled
    obtain ⟨_, _, again, pending, queued⟩ := GlobalBackend.frame_pollRequest asked
    obtain ⟨rfl, rfl⟩ := Prod.mk.inj (Option.some.inj (removed.symm.trans again))
    obtain ⟨polls, swept, events, kept⟩ := ih polled
    rw [pending] at swept
    refine ⟨(future, (providers n).isReady keccak256 future) :: polls, ?_, ?_, kept.trans queued⟩
    · rw [sweep, removed, Option.bind_some]
      show (sweep _ n (if (providers n).isReady keccak256 future then rest else rest ++ [future])).map _
        = _
      rw [swept]
      rfl
    · rw [events, List.append_assoc]
      rfl

theorem pollPending_spec (providers : ℕ → Provider ε) {traced after : Traced ε}
    (polled : traced.pollPending keccak256 providers traced.pendingRequests.length = some after) :
    PolledOnce keccak256 providers traced after := by
  obtain ⟨log, swept, events, queued⟩ := pollPending_sweep providers _ polled
  obtain ⟨left, all, kept⟩ := sweep_all (fun n => (providers n).isReady keccak256)
    traced.pendingRequests
  obtain ⟨rfl, rfl⟩ := Prod.mk.inj (Option.some.inj (swept.symm.trans all))
  exact ⟨pollsOf_items traced.pendingRequests, events, kept, queued⟩

/-- No pending future panics when it is polled. -/
def Calm (keccak256 : List Byte → Word) (providers : ℕ → Provider ε)
    (pending : List FetchRequestFuture) : Prop :=
  ∀ n future, pending[n]? = some future → (providers n).reply keccak256 future ≠ none

/-- A pass over futures that do not panic comes to its end. -/
theorem pollPending_isSome (providers : ℕ → Provider ε) (n : ℕ) (traced : Traced ε)
    (inside : n ≤ traced.pendingRequests.length)
    (calm : Calm keccak256 providers (traced.pendingRequests.take n)) :
    (traced.pollPending keccak256 providers n).isSome := by
  induction n generalizing traced with
  | zero => rfl
  | succ n ih =>
    obtain ⟨future, rest, removed⟩ := swapRemove_isSome (show n < traced.pendingRequests.length from inside)
    have here := swapRemove_item removed
    obtain ⟨ready, replied⟩ := Option.ne_none_iff_exists'.mp
      (calm n future (by rw [List.getElem?_take_of_lt (Nat.lt_succ_self n), here]))
    obtain ⟨backend, asked⟩ : ∃ backend, traced.pollRequest keccak256 n (providers n) = some backend := by
      rw [GlobalBackend.pollRequest_eq, removed, Option.bind_some]
      simp only [replied, Option.map_some]
      exact ⟨_, rfl⟩
    obtain ⟨_, _, again, pending, -⟩ := GlobalBackend.frame_pollRequest asked
    obtain ⟨rfl, rfl⟩ := Prod.mk.inj (Option.some.inj (removed.symm.trans again))
    have length := (swapRemove_perm removed).length_eq
    rw [List.length_cons] at length
    have short : n ≤ backend.pendingRequests.length := by
      rw [pending]
      split
      · omega
      · simp only [List.length_append]
        omega
    -- the futures below the index are where they were
    have same : backend.pendingRequests.take n = traced.pendingRequests.take n := by
      rw [pending, ← swapRemove_take removed]
      split
      · rfl
      · rw [List.take_append_of_le_length (by omega)]
    rw [pollPending, removed, Option.bind_some]
    show ((traced.pollRequest keccak256 n (providers n)).bind _).isSome
    rw [asked, Option.bind_some]
    refine ih _ short fun m other there => calm m other ?_
    have before : m < n := by
      have bound := (List.getElem?_eq_some_iff.mp there).1
      rw [List.length_take] at bound
      omega
    have found : (traced.pendingRequests.take n)[m]? = some other := same ▸ there
    rwa [List.getElem?_take_of_lt before, ← List.getElem?_take_of_lt (Nat.lt_succ_of_lt before)] at found

end Traced

end Pass

/-! ### A whole call -/

section Calls

variable {keccak256 : List Byte → Word}

/-- Everything that can wake up a backend was polled and not ready: the channel, and behind it every
pending future, while none was created any more. -/
structure AllWatched (traced : Traced ε) : Prop where
  queued : traced.queuedRequests = []
  channel : ∃ before later, traced.events = before ++ .incoming .pending :: later
    ∧ ∀ answer, .incoming answer ∉ later
  futures : ∀ future ∈ traced.pendingRequests, ∃ before later,
    traced.events = before ++ .polled future false :: later ∧ .pushed future ∉ later
  each : ∃ before polls, traced.events
      = before ++ List.map (fun poll : Polled FetchRequestFuture => .polled poll.1 poll.2) polls
    ∧ traced.pendingRequests.Perm (unready polls)

namespace Traced

/-- Behind the last poll of the channel, the futures were polled. -/
theorem allWatched {traced : Traced ε} (queued : traced.queuedRequests = []) {before : List Event}
    {polls : List (Polled FetchRequestFuture)}
    (events : traced.events = before ++ [.incoming .pending]
      ++ polls.map fun poll => .polled poll.1 poll.2)
    (kept : traced.pendingRequests.Perm (unready polls)) : AllWatched traced := by
  refine ⟨queued, ⟨before, _, by rw [events, List.append_assoc]; rfl, fun answer => by simp⟩, ?_,
    ⟨_, polls, events, kept⟩⟩
  intro future there
  obtain ⟨poll, polled, rfl⟩ := List.mem_map.mp (kept.mem_iff.mp there)
  obtain ⟨among, waits⟩ := List.mem_filter.mp polled
  obtain ⟨earlier, later, rfl⟩ := List.append_of_mem among
  refine ⟨before ++ [.incoming .pending] ++ earlier.map fun poll => .polled poll.1 poll.2,
    later.map fun poll => .polled poll.1 poll.2, ?_, by simp⟩
  have isReady : poll.2 = false := by simpa using waits
  rw [events, List.map_append, List.map_cons, isReady]
  simp only [List.append_assoc]

theorem poll_allWatched {turns : List (Turn ε)} {traced after : Traced ε}
    (polled : traced.poll keccak256 turns = some (.pending, after)) : AllWatched after := by
  induction turns generalizing traced with
  | nil => exact absurd polled (by simp [poll])
  | cons turn turns ih =>
    obtain ⟨⟨returned, middle⟩, taken, rest⟩ := Option.bind_eq_some_iff.mp polled
    cases returned with
    | ready => exact absurd (Option.some.inj rest) (by simp)
    | pending =>
      have next : (if middle.queuedRequests = [] then some (Poll.pending, middle)
        else poll keccak256 turns middle) = some (.pending, after) := rest
      by_cases idle : middle.queuedRequests = []
      · rw [if_pos idle] at next
        obtain rfl := (Prod.mk.inj (Option.some.inj next)).2
        obtain ⟨_, received, -, ⟨before, channel⟩, swept⟩ := turn_pending taken
        have pass := pollPending_spec turn.providers swept
        exact allWatched idle (channel ▸ pass.events) pass.kept
      · rw [if_neg idle] at next
        exact ih next

end Traced

/-- A pass polls every pending future once and keeps those that are not ready; it comes to its end
unless a future panics. Whenever a call returns pending, everything that can wake it up is watched. -/
theorem misses_no_wake_up (keccak256 : List Byte → Word) :
    (∀ (providers : ℕ → Provider ε) (traced after : Traced ε),
      traced.pollPending keccak256 providers traced.pendingRequests.length = some after →
      Traced.PolledOnce keccak256 providers traced after)
    ∧ (∀ (providers : ℕ → Provider ε) (traced : Traced ε),
      Traced.Calm keccak256 providers traced.pendingRequests →
      (traced.pollPending keccak256 providers traced.pendingRequests.length).isSome)
    ∧ ∀ (turns : List (Turn ε)) (traced after : Traced ε),
      traced.poll keccak256 turns = some (.pending, after) → AllWatched after := by
  refine ⟨fun providers traced after => Traced.pollPending_spec providers, fun providers traced calm => ?_,
    fun turns traced after => Traced.poll_allWatched⟩
  apply Traced.pollPending_isSome providers _ traced (Nat.le_refl _)
  rwa [List.take_length]

/-- A provider whose calls are all under way. -/
def slow : Provider Unit where
  getAccount _ := none
  getStorageAt _ _ := none
  getBlock _ := none

/-- A request arrives, and in the next round nothing does. -/
def slowTurns : List (Turn Unit) :=
  [⟨[.request (.basic usdcAccount 0), .pending], fun _ => slow⟩, ⟨[.pending], fun _ => slow⟩]

/-- The fetch that the request starts is created in the second round, and polled there. -/
theorem misses_no_wake_up_usdc : ∃ after : Traced Unit,
    Traced.poll (fun _ => 0) slowTurns ⟨.new emptyDb, []⟩ = some (.pending, after)
      ∧ after.pendingRequests = [.basic usdcAccount]
      ∧ AllWatched after :=
  ⟨_, rfl, rfl, (misses_no_wake_up fun _ => 0).2.2 slowTurns ⟨.new emptyDb, []⟩ _ rfl⟩

end Calls

end Sando.ForkedDb
