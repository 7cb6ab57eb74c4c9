/-
The pools of a bot and of its indexer.

The indexer makes up no pool: what it hands out in any run is in the file or was created by a factory of a
configured dex, in a log that is on the chain by then. A bot that starts with the pools of the start-up and
is fed by the tasks of the indexer knows such pools only, so that every target pool of every bundle is one
of them, up to its dust (`targets_genuine`), however the two runs interleave.
-/

import Sando.Runner.Targets

namespace Sando.Runner

open Sando.Evm Sando.TxBuilder Sando.Simulate Sando.Program Sando.StateDiff Sando.Cfmm

/-! ### The indexer -/

/-- A pool is in the file, or a dex has created it, with WETH as one of its tokens. -/
def Sources.Genuine (sources : Sources) (head : ℕ) (pool : TargetPool) : Prop :=
  pool ∈ (sources.fromFile.map AllPoolsInfo.pools).getD []
    ∨ ∃ dex ∈ sources.dexes, ∃ log ∈ sources.chain, log.block ≤ head
      ∧ log.address = dex.factoryAddress
      ∧ log.topics.head? = some (poolCreatedEventSignature dex.poolVariant)
      ∧ dex.newPoolFromEvent log = some pool ∧ Indexed dex pool

/-- The task of a bot has fetched some pools. -/
def Indexer.Fetched (bot : Indexer) (pools : List TargetPool) : Prop :=
  ∃ counter currentBlockNum number,
    bot.subscription = some ⟨counter, currentBlockNum, some (number, some pools)⟩

/-- What the indexer hands out: the pools of the start-up, and those that were fetched. -/
def Indexing.Offers (state : Indexing) (pools : List TargetPool) : Prop :=
  (∃ currentBlock, state.startUp = .running currentBlock pools) ∨ ∃ bot ∈ state.bots, bot.Fetched pools

section Indexer

variable {sources : Sources} {head later : ℕ} {pool : TargetPool} {state after : Indexing}

theorem Sources.Genuine.mono (genuine : sources.Genuine head pool) (grows : head ≤ later) :
    sources.Genuine later pool :=
  genuine.imp_right fun ⟨dex, listed, log, logged, mined, created⟩ =>
    ⟨dex, listed, log, logged, mined.trans grows, created⟩

/-- A synchronisation finds nothing else. -/
theorem genuine_of_mem_syncDex {currentBlock : ℕ} {startBlock : Option ℕ}
    (found : pool ∈ syncDex (sources.visible head) sources.dexes currentBlock startBlock) :
    sources.Genuine head pool := by
  obtain ⟨dex, listed, found⟩ := List.mem_flatMap.mp found
  obtain ⟨fromBlock, -, found⟩ := List.mem_flatMap.mp found
  obtain ⟨log, fetched, found⟩ := List.mem_filterMap.mp found
  obtain ⟨visible, matching⟩ := List.mem_filter.mp fetched
  obtain ⟨logged, mined⟩ := List.mem_filter.mp visible
  obtain ⟨topic, written, -, -⟩ := of_decide_eq_true matching
  exact .inr ⟨dex, listed, log, logged, of_decide_eq_true mined, written, topic, found,
    (Dex.newPoolFromEvent_spec found).2⟩

theorem genuine_of_mem_firstPools {currentBlock : ℕ}
    (found : pool ∈ sources.firstPools head currentBlock) : sources.Genuine head pool := by
  rcases List.mem_append.mp found with saved | synced
  · exact .inl saved
  · exact genuine_of_mem_syncDex synced

/-- One of the bots takes a step. -/
theorem act_eq_some {n : ℕ} {step : Indexer → Option Indexer} (taken : state.act n step = some after) :
    ∃ bot next, bot ∈ state.bots ∧ step bot = some next
      ∧ after = { state with bots := state.bots.set n next } := by
  obtain ⟨bot, acting, taken⟩ := Option.bind_eq_some_iff.mp taken
  obtain ⟨next, moved, taken⟩ := Option.bind_eq_some_iff.mp taken
  exact ⟨bot, next, List.mem_of_getElem? acting, moved, (Option.some.inj taken).symm⟩

/-- No step lowers the head of the chain. -/
theorem head_le_next {step : Step} (taken : state.next sources step = some after) :
    state.head ≤ after.head := by
  cases step with
  | mine head =>
    obtain ⟨grows, taken⟩ := Option.ite_none_right_eq_some.mp taken
    cases taken
    exact grows
  | getBlockNumber currentBlock =>
    simp only [Indexing.next] at taken
    split at taken
    · obtain ⟨-, taken⟩ := Option.ite_none_right_eq_some.mp taken
      cases taken
      exact le_rfl
    · cases taken
  | firstSync | runBot =>
    simp only [Indexing.next] at taken
    split at taken <;> cases taken
    exact le_rfl
  | subscribe n number | newBlock n number =>
    obtain ⟨-, taken⟩ := Option.ite_none_right_eq_some.mp taken
    obtain ⟨bot, next, -, -, rfl⟩ := act_eq_some taken
    exact le_rfl
  | fetch n | merge n | disconnect n =>
    obtain ⟨bot, next, -, -, rfl⟩ := act_eq_some taken
    exact le_rfl

/-- Everything that is handed out is genuine. -/
def Indexing.Sound (sources : Sources) (state : Indexing) : Prop :=
  ∀ pools, state.Offers pools → ∀ pool ∈ pools, sources.Genuine state.head pool

/-- A bot that has fetched nothing new. -/
theorem Indexing.Sound.act (sound : state.Sound sources) {n : ℕ} {step : Indexer → Option Indexer}
    (fetches : ∀ bot next pools, step bot = some next → next.Fetched pools →
      bot.Fetched pools ∨ ∀ pool ∈ pools, sources.Genuine state.head pool)
    (taken : state.act n step = some after) : after.Sound sources := by
  obtain ⟨bot, next, listed, moved, rfl⟩ := act_eq_some taken
  rintro pools (started | ⟨other, there, fetched⟩)
  · exact sound pools (.inl started)
  · rcases List.mem_or_eq_of_mem_set there with earlier | rfl
    · exact sound pools (.inr ⟨other, earlier, fetched⟩)
    · rcases fetches bot other pools moved fetched with before | genuine
      · exact sound pools (.inr ⟨bot, listed, before⟩)
      · exact genuine

theorem offers_new (sources : Sources) : Indexing.new.Sound sources := by
  rintro pools (⟨currentBlock, started⟩ | ⟨bot, there, -⟩)
  · cases started
  · exact absurd there List.not_mem_nil

theorem Indexing.Sound.next (sound : state.Sound sources) {step : Step}
    (taken : state.next sources step = some after) : after.Sound sources := by
  cases step with
  | mine head =>
    obtain ⟨grows, taken⟩ := Option.ite_none_right_eq_some.mp taken
    cases taken
    exact fun pools offered pool there => (sound pools offered pool there).mono grows
  | getBlockNumber currentBlock =>
    simp only [Indexing.next] at taken
    split at taken
    · obtain ⟨-, taken⟩ := Option.ite_none_right_eq_some.mp taken
      cases taken
      rintro pools (⟨_, started⟩ | fetched)
      · cases started
      · exact sound pools (.inr fetched)
    · cases taken
  | firstSync =>
    simp only [Indexing.next] at taken
    split at taken <;> cases taken
    rintro pools (⟨_, started⟩ | fetched)
    · cases started
      exact fun pool => genuine_of_mem_firstPools
    · exact sound pools (.inr fetched)
  | runBot =>
    simp only [Indexing.next] at taken
    split at taken <;> cases taken
    rintro pools (started | ⟨bot, there, fetched⟩)
    · exact sound pools (.inl started)
    · rcases List.mem_append.mp there with earlier | new
      · exact sound pools (.inr ⟨bot, earlier, fetched⟩)
      · obtain rfl := List.mem_singleton.mp new
        obtain ⟨_, _, _, subscribed⟩ := fetched
        cases subscribed
  | subscribe n currentBlockNum =>
    obtain ⟨-, taken⟩ := Option.ite_none_right_eq_some.mp taken
    refine sound.act (fun bot next pools moved fetched => ?_) taken
    obtain ⟨_, _, _, subscribed⟩ := fetched
    unfold Indexer.subscribe at moved
    split at moved <;> cases moved
    cases subscribed
  | newBlock n number =>
    obtain ⟨-, taken⟩ := Option.ite_none_right_eq_some.mp taken
    refine sound.act (fun bot next pools moved fetched => ?_) taken
    obtain ⟨_, _, _, subscribed⟩ := fetched
    unfold Indexer.newBlock at moved
    split at moved <;> cases moved
    obtain ⟨-, -, started⟩ := Subscription.mk.inj (Option.some.inj subscribed)
    split at started <;> cases started
  | fetch n =>
    refine sound.act (fun bot next pools moved fetched => ?_) taken
    obtain ⟨_, _, _, subscribed⟩ := fetched
    unfold Indexer.fetch at moved
    split at moved <;> cases moved
    cases subscribed
    exact .inr fun pool => genuine_of_mem_syncDex
  | merge n =>
    refine sound.act (fun bot next pools moved fetched => ?_) taken
    obtain ⟨_, _, _, subscribed⟩ := fetched
    unfold Indexer.merge at moved
    split at moved <;> cases moved
    cases subscribed
  | disconnect n =>
    refine sound.act (fun bot next pools moved fetched => ?_) taken
    obtain ⟨_, _, _, subscribed⟩ := fetched
    unfold Indexer.disconnect at moved
    split at moved <;> cases moved
    cases subscribed

/-- What was handed out anywhere in a run is genuine at its end. -/
theorem genuine_of_offers {indexing : List (Indexing × Step)} {ended : Indexing}
    (indexes : IndexingRun sources indexing ended) {seen : Indexing × Step} (visited : seen ∈ indexing)
    {pools : List TargetPool} (offered : seen.1.Offers pools) :
    ∀ pool ∈ pools, sources.Genuine ended.head pool := by
  have sound := (indexes.invariant (offers_new sources) fun _ _ _ sound => sound.next).2 seen visited
  have grows := indexes.le_last (fun _ _ _ => head_le_next) seen visited
  exact fun pool there => (sound pools offered pool there).mono grows

end Indexer

/-! ### The bot -/

/-- Every pool that a bot knows is good. -/
def Knows (good : TargetPool → Prop) (allPools : AllPools) : Prop :=
  ∀ address pool, allPools address = some pool → good pool

section Bot

variable {good : TargetPool → Prop} {allPools : AllPools} {config : Config} {state after : Bot}

theorem Knows.insert (knows : Knows good allPools) {pool : TargetPool} (holds : good pool) :
    Knows good (allPools.insert pool) := by
  intro address found here
  by_cases same : address = pool.address
  · rw [AllPools.insert, same, Function.update_self] at here
    exact Option.some.inj here ▸ holds
  · rw [AllPools.insert, Function.update_of_ne same] at here
    exact knows address found here

theorem Knows.insertAll {pools : List TargetPool} (all : ∀ pool ∈ pools, good pool) :
    ∀ {allPools : AllPools}, Knows good allPools → Knows good (allPools.insertAll pools) := by
  induction pools with
  | nil => exact id
  | cons pool rest ih =>
    obtain ⟨here, later⟩ := List.forall_mem_cons.mp all
    exact fun knows => ih later (knows.insert here)

/-- Only an insertion changes the pools that a bot knows. -/
theorem next_allPools {event : BotEvent} (taken : state.next config event = some after) :
    after.allPools = state.allPools
      ∨ ∃ pool, event = .insertPool pool ∧ after.allPools = state.allPools.insert pool := by
  cases Bot.steps_of_next taken with
  | insertPool => exact .inr ⟨_, rfl, rfl⟩
  | _ => exact .inl rfl

/-- A bot that is fed with good pools knows good pools, wherever it is. -/
theorem knows_of_fed {start : Bot} {steps : List (Bot × BotEvent)} {last : Bot}
    (run : BotRun config start steps last) (starts : Knows good start.allPools)
    (fed : Meets (fun _ event => ∀ pool, event = .insertPool pool → good pool) steps) :
    Meets (fun state _ => Knows good state.allPools) steps := by
  refine (run.invariant_of_meets starts (fun state event after knows fed taken => ?_) fed).2
  rcases next_allPools taken with same | ⟨pool, rfl, same⟩
  · rw [same]
    exact knows
  · rw [same]
    exact knows.insert (fed pool rfl)

end Bot

/-! ### Both -/

/-- Every target pool of every bundle is in the file or was created by a factory of a dex, with WETH as one
of its tokens. -/
theorem targets_genuine (sources : Sources) (indexing : List (Indexing × Step)) (ended : Indexing)
    (indexes : IndexingRun sources indexing ended) (config : Config) (nonce : Word)
    (blockOracle : BlockOracle) (wethBalance : Word) (pools : List TargetPool)
    (steps : List (Bot × BotEvent)) (last : Bot)
    (run : BotRun config (.new nonce blockOracle (AllPools.insertAll (fun _ => none) pools) wethBalance)
      steps last)
    (starts : ∃ seen ∈ indexing, seen.1.Offers pools)
    (fed : Meets (fun _ event => ∀ pool, event = .insertPool pool →
      ∃ seen ∈ indexing, ∃ pools, seen.1.Offers pools ∧ pool ∈ pools) steps) :
    ∀ sent ∈ last.sent, ∀ pool ∈ sent.optimalSandwich.targetPools,
      ∃ genuine, sources.Genuine ended.head genuine ∧ plain genuine = plain pool := by
  have first : Knows (sources.Genuine ended.head) (AllPools.insertAll (fun _ => none) pools) := by
    obtain ⟨seen, visited, offered⟩ := starts
    exact Knows.insertAll (genuine_of_offers indexes visited offered) fun address => forall_of_none
  have knows := knows_of_fed run first fun taken there pool inserted => by
    obtain ⟨seen, visited, offered, offers, listed⟩ := fed taken there pool inserted
    exact genuine_of_offers indexes visited offers pool listed
  intro sent there pool target
  obtain ⟨victimTx, taken, visited, baited⟩ := (targets_of_run run).sent sent there |>.pools pool target
  obtain ⟨_, _, _, _, _, _, _, _, _, -, -, -, -, ⟨address, -, held, known, same⟩, -⟩ := baited
  exact ⟨held, knows taken visited address held known, same⟩

/-- The bot that starts behind block 100, before the pair of USDC is created in block 103. -/
def earlyBot : Bot :=
  .new 0 ⟨⟨⟨99, 100⟩, 1700000000⟩, ⟨⟨100, 100⟩, 1700000012⟩⟩
    (AllPools.insertAll (fun _ => none) ((oneCreation 103).firstPools 100 100)) 0

theorem targets_genuine_103 : ∃ last : Bot, last.sent.length = 2 ∧ ∀ sent ∈ last.sent,
    ∀ pool ∈ sent.optimalSandwich.targetPools,
      ∃ genuine, (oneCreation 103).Genuine 103 genuine ∧ plain genuine = plain pool := by
  have sent : (((.insertPool usdcPair :: timelyEvents).foldlM (Bot.next plainConfig) earlyBot).map
      fun last => last.sent.length) = some 2 := by decide +kernel
  obtain ⟨last, taken, two⟩ := Option.map_eq_some_iff.mp sent
  obtain ⟨steps, labels, run⟩ := Run.exists_of_foldlM (Bot.next plainConfig) earlyBot last _ taken
  -- the task of the bot has fetched the pair
  obtain ⟨indexing, -, indexes⟩ := Run.exists_of_foldlM (Indexing.next (oneCreation 103)) .new _
    startAt100.dropLast rfl
  refine ⟨last, two, targets_genuine (oneCreation 103) _ _ (indexes.take (.merge 0) rfl) plainConfig 0 _ 0
    _ steps last run ⟨_, List.mem_append_right _ List.mem_cons_self, .inl ⟨100, rfl⟩⟩ ?_⟩
  rintro taken there pool inserted
  refine ⟨_, List.mem_append_right _ List.mem_cons_self, _, .inr ⟨_, List.mem_cons_self, _, _, _, rfl⟩, ?_⟩
  have listed : taken.2 ∈ .insertPool usdcPair :: timelyEvents := labels ▸ List.mem_map_of_mem there
  rw [inserted] at listed
  have same : pool = usdcPair := by simpa [timelyEvents] using listed
  rw [same]
  exact mem_syncDex_visible (created_oneCreation 103 (by decide)) (by decide) le_rfl le_rfl

end Sando.Runner
