/-
Indexing new pools.

The bot starts with the pools of a file and of a first synchronisation. Each time it is restarted, its
map of pools starts with those again, and a task that adds new pools is started. The task subscribes
to blocks, asks for the block number, and every few blocks synchronises from there. `next` is one
step of the start-up, of the tasks or of the chain. Pools created after the last synchronised block and
before the block a new subscription asks for are not scanned by anyone: `Seamless` says that there are
none, and `complete_of_seamless` that the maps are then complete up to their last synchronised block.
-/

import Sando.Cfmm.Dex
import Sando.Program.Runs
import Sando.Runner.BundleSender

namespace Sando.Runner

open Sando.Evm Sando.Program Sando.Simulate Sando.Cfmm

/-! ### States -/

/-- The pools by their address. -/
abbrev AllPools := Address → Option TargetPool

def AllPools.insert (allPools : AllPools) (pool : TargetPool) : AllPools :=
  Function.update allPools pool.address (some pool)

def AllPools.insertAll (allPools : AllPools) (pools : List TargetPool) : AllPools :=
  pools.foldl AllPools.insert allPools

/-- The file of pools. -/
structure AllPoolsInfo where
  lastBlockNumber : ℕ
  pools : List TargetPool

/-- All the logs there will ever be, the dexes, the number of blocks between two synchronisations,
and the file, if there is one. -/
structure Sources where
  chain : List Log
  dexes : List Dex
  intervalBlockNewPool : ℕ
  fromFile : Option AllPoolsInfo

/-- A subscription of the task that adds new pools. -/
structure Subscription where
  counter : ℕ
  currentBlockNum : ℕ
  /-- The block of a synchronisation under way, and its pools once they are there. -/
  syncing : Option (ℕ × Option (List TargetPool))

/-- A bot, with the task it has started. `synced` is the block of the last synchronisation that is in
the map. -/
structure Indexer where
  allPools : AllPools
  subscription : Option Subscription
  synced : ℕ

/-- How far the start-up is. -/
inductive StartUp
  | starting
  | syncing (currentBlock : ℕ)
  | running (currentBlock : ℕ) (allPools : List TargetPool)

/-- The height of the chain, the start-up, and the bots so far. The task of a bot goes on when the bot is
replaced. -/
structure Indexing where
  head : ℕ
  startUp : StartUp
  bots : List Indexer

def Indexing.new : Indexing := ⟨0, .starting, []⟩

/-! ### Steps -/

inductive Step
  /-- The chain grows. -/
  | mine (head : ℕ)
  /-- The start-up asks for the block number. -/
  | getBlockNumber (currentBlock : ℕ)
  | firstSync
  /-- A new bot is run. -/
  | runBot
  /-- The task of a bot subscribes, and then asks for the block number. -/
  | subscribe (bot currentBlockNum : ℕ)
  | newBlock (bot number : ℕ)
  | fetch (bot : ℕ)
  | merge (bot : ℕ)
  | disconnect (bot : ℕ)

/-- The logs of the chain up to its head. -/
def Sources.visible (sources : Sources) (head : ℕ) : List Log :=
  sources.chain.filter (·.block ≤ head)

/-- The block the file has been saved for. -/
def Sources.startBlock (sources : Sources) : Option ℕ :=
  sources.fromFile.map AllPoolsInfo.lastBlockNumber

/-- The pools of the file and of the first synchronisation. -/
def Sources.firstPools (sources : Sources) (head currentBlock : ℕ) : List TargetPool :=
  (sources.fromFile.map AllPoolsInfo.pools).getD []
    ++ syncDex (sources.visible head) sources.dexes currentBlock sources.startBlock

/-- The map of a new bot. -/
def Indexer.new (pools : List TargetPool) (currentBlock : ℕ) : Indexer :=
  ⟨AllPools.insertAll (fun _ => none) pools, none, currentBlock⟩

namespace Indexer

variable (bot : Indexer)

def subscribe (currentBlockNum : ℕ) : Option Indexer :=
  match bot.subscription with
  | none => some { bot with subscription := some ⟨0, currentBlockNum, none⟩ }
  | some _ => none

/-- A block is counted, and starts a synchronisation when it is the last one of the interval. -/
def newBlock (intervalBlockNewPool latestBlockNumber : ℕ) : Option Indexer :=
  match bot.subscription with
  | some ⟨counter, currentBlockNum, none⟩ =>
    let counter := counter + 1
    let syncing :=
      if counter = intervalBlockNewPool then some (latestBlockNumber, none) else none
    some { bot with subscription := some ⟨counter, currentBlockNum, syncing⟩ }
  | _ => none

/-- The queries of a synchronisation are answered. -/
def fetch (chain : List Log) (dexes : List Dex) : Option Indexer :=
  match bot.subscription with
  | some ⟨counter, currentBlockNum, some (latestBlockNumber, none)⟩ =>
    let fetchedNewPools := syncDex chain dexes latestBlockNumber (some currentBlockNum)
    some { bot with
      subscription := some ⟨counter, currentBlockNum, some (latestBlockNumber, some fetchedNewPools)⟩ }
  | _ => none

/-- The pools of a synchronisation are put into the map. -/
def merge : Option Indexer :=
  match bot.subscription with
  | some ⟨_, _, some (latestBlockNumber, some fetchedNewPools)⟩ =>
    some {
      allPools := bot.allPools.insertAll fetchedNewPools
      subscription := some ⟨0, latestBlockNumber, none⟩
      synced := latestBlockNumber }
  | _ => none

/-- The websocket connection is lost. -/
def disconnect : Option Indexer :=
  match bot.subscription with
  | some ⟨_, _, none⟩ => some { bot with subscription := none }
  | _ => none

end Indexer

namespace Indexing

variable (sources : Sources) (state : Indexing)

/-- One of the bots takes a step. -/
def act (n : ℕ) (step : Indexer → Option Indexer) : Option Indexing := do
  let bot ← state.bots[n]?
  let bot ← step bot
  return { state with bots := state.bots.set n bot }

/-- The state behind a step. The numbers of blocks are not above the head of the chain. -/
def next : Step → Option Indexing
  | .mine head => if state.head ≤ head then some { state with head } else none
  | .getBlockNumber currentBlock =>
    match state.startUp with
    | .starting =>
      if currentBlock ≤ state.head then some { state with startUp := .syncing currentBlock } else none
    | _ => none
  | .firstSync =>
    match state.startUp with
    | .syncing currentBlock =>
      some { state with
        startUp := .running currentBlock (sources.firstPools state.head currentBlock) }
    | _ => none
  | .runBot =>
    match state.startUp with
    | .running currentBlock pools =>
      some { state with bots := state.bots ++ [.new pools currentBlock] }
    | _ => none
  | .subscribe n currentBlockNum =>
    if currentBlockNum ≤ state.head then state.act n (·.subscribe currentBlockNum) else none
  | .newBlock n number =>
    if number ≤ state.head then state.act n (·.newBlock sources.intervalBlockNewPool number) else none
  | .fetch n => state.act n (·.fetch (sources.visible state.head) sources.dexes)
  | .merge n => state.act n Indexer.merge
  | .disconnect n => state.act n Indexer.disconnect

end Indexing

/-- A run from before the start-up. -/
abbrev IndexingRun (sources : Sources) : List (Indexing × Step) → Indexing → Prop :=
  Run (fun state step after => state.next sources step = some after) .new

/-! ### What a map holds -/

/-- A configured dex has created a pool in a block, not before the first one that is looked at. -/
def Sources.Created (sources : Sources) (pool : TargetPool) (block : ℕ) : Prop :=
  ∃ dex ∈ sources.dexes, ∃ log ∈ sources.chain, log.address = dex.factoryAddress
    ∧ dex.newPoolFromEvent log = some pool ∧ log.block = block
    ∧ sources.startBlock.getD dex.creationBlock ≤ block

/-- A map holds every pool created up to the last synchronised block. -/
def Complete (sources : Sources) (bot : Indexer) : Prop :=
  ∀ pool block, sources.Created pool block → block ≤ bot.synced → bot.allPools pool.address ≠ none

/-- No pool was created after the last synchronised block and before the one that a new subscription
asks for. -/
def Seamless (sources : Sources) (state : Indexing) : Step → Prop
  | .subscribe n currentBlockNum => ∀ bot, state.bots[n]? = some bot → ∀ pool block,
      sources.Created pool block → block ≤ bot.synced ∨ currentBlockNum ≤ block
  | _ => True

section Maps

variable {sources : Sources} {head currentBlock startBlock block : ℕ} {pool : TargetPool}

theorem insertAll_of_ne_none {allPools : AllPools} {address : Address} (pools : List TargetPool)
    (known : allPools address ≠ none) : allPools.insertAll pools address ≠ none := by
  unfold AllPools.insertAll
  induction pools generalizing allPools with
  | nil => exact known
  | cons pool pools ih =>
    refine ih ?_
    by_cases same : address = pool.address
    · rw [AllPools.insert, same, Function.update_self]
      exact Option.some_ne_none pool
    · rw [AllPools.insert, Function.update_of_ne same]
      exact known

theorem insertAll_of_mem (allPools : AllPools) {pools : List TargetPool} (mem : pool ∈ pools) :
    allPools.insertAll pools pool.address ≠ none := by
  induction pools generalizing allPools with
  | nil => exact absurd mem List.not_mem_nil
  | cons first pools ih =>
    rcases List.mem_cons.mp mem with rfl | later
    · refine insertAll_of_ne_none pools ?_
      rw [AllPools.insert, Function.update_self]
      exact Option.some_ne_none pool
    · exact ih (allPools.insert first) later

/-- A synchronisation finds what was created between its two blocks. -/
theorem mem_syncDex_visible (created : sources.Created pool block) (lower : startBlock ≤ block)
    (upper : block ≤ currentBlock) (mined : currentBlock ≤ head) :
    pool ∈ syncDex (sources.visible head) sources.dexes currentBlock (some startBlock) := by
  obtain ⟨dex, listed, log, logged, written, found, rfl, -⟩ := created
  have visible : log ∈ sources.visible head :=
    List.mem_filter.mpr ⟨logged, decide_eq_true (upper.trans mined)⟩
  exact mem_syncDex listed visible written found lower upper

theorem mem_firstPools (created : sources.Created pool block) (upper : block ≤ currentBlock)
    (mined : currentBlock ≤ head) : pool ∈ sources.firstPools head currentBlock := by
  obtain ⟨dex, listed, log, logged, written, found, rfl, lower⟩ := created
  have visible : log ∈ sources.visible head :=
    List.mem_filter.mpr ⟨logged, decide_eq_true (upper.trans mined)⟩
  exact List.mem_append_right _ (mem_syncDex listed visible written found lower upper)

end Maps

/-! ### Runs without gaps -/

/-- What the task of a bot has done so far fits its map, and it has left out no block. -/
structure Tracked (sources : Sources) (head : ℕ) (bot : Indexer) : Prop where
  complete : Complete sources bot
  joined : ∀ subscription, bot.subscription = some subscription → ∀ pool block,
    sources.Created pool block → block ≤ bot.synced ∨ subscription.currentBlockNum ≤ block
  mined : ∀ counter currentBlockNum number pools,
    bot.subscription = some ⟨counter, currentBlockNum, some (number, pools)⟩ → number ≤ head
  fetched : ∀ counter currentBlockNum number pools,
    bot.subscription = some ⟨counter, currentBlockNum, some (number, some pools)⟩ → ∀ pool block,
      sources.Created pool block → currentBlockNum ≤ block → block ≤ number → pool ∈ pools

section Tracked

variable {sources : Sources} {head currentBlockNum number : ℕ} {bot after : Indexer}

theorem Tracked.mono (tracked : Tracked sources head bot) {later : ℕ} (grows : head ≤ later) :
    Tracked sources later bot where
  complete := tracked.complete
  joined := tracked.joined
  mined _ _ _ _ syncing := (tracked.mined _ _ _ _ syncing).trans grows
  fetched := tracked.fetched

theorem tracked_new {pools : List TargetPool} {currentBlock : ℕ} (found : ∀ pool block,
    sources.Created pool block → block ≤ currentBlock → pool ∈ pools) :
    Tracked sources head (.new pools currentBlock) where
  complete pool block created upper := insertAll_of_mem _ (found pool block created upper)
  joined _ subscribed := absurd subscribed (by simp [Indexer.new])
  mined _ _ _ _ subscribed := absurd subscribed (by simp [Indexer.new])
  fetched _ _ _ _ subscribed := absurd subscribed (by simp [Indexer.new])

theorem Tracked.subscribe (tracked : Tracked sources head bot)
    (seamless : ∀ pool block, sources.Created pool block
      → block ≤ bot.synced ∨ currentBlockNum ≤ block)
    (taken : bot.subscribe currentBlockNum = some after) : Tracked sources head after := by
  unfold Indexer.subscribe at taken
  split at taken
  · obtain rfl := Option.some.inj taken
    refine ⟨tracked.complete, ?_, ?_, ?_⟩
    · rintro _ ⟨rfl⟩
      exact seamless
    · rintro _ _ _ _ ⟨⟩
    · rintro _ _ _ _ ⟨⟩
  · cases taken

theorem Tracked.newBlock (tracked : Tracked sources head bot) {interval : ℕ} (mined : number ≤ head)
    (taken : bot.newBlock interval number = some after) : Tracked sources head after := by
  unfold Indexer.newBlock at taken
  split at taken
  · next counter currentBlockNum subscribed =>
    obtain rfl := Option.some.inj taken
    have joined := tracked.joined _ subscribed
    refine ⟨tracked.complete, ?_, ?_, ?_⟩
    · rintro _ ⟨rfl⟩
      exact joined
    · intro _ _ _ _ syncing
      obtain ⟨-, -, started⟩ := Subscription.mk.inj (Option.some.inj syncing)
      split at started
      · obtain ⟨rfl, -⟩ := Prod.mk.inj (Option.some.inj started)
        exact mined
      · cases started
    · intro _ _ _ _ syncing
      obtain ⟨-, -, started⟩ := Subscription.mk.inj (Option.some.inj syncing)
      split at started <;> cases started
  · cases taken

theorem Tracked.fetch (tracked : Tracked sources head bot)
    (taken : bot.fetch (sources.visible head) sources.dexes = some after) :
    Tracked sources head after := by
  unfold Indexer.fetch at taken
  split at taken
  · next counter currentBlockNum number subscribed =>
    obtain rfl := Option.some.inj taken
    have joined := tracked.joined _ subscribed
    have mined := tracked.mined _ _ _ _ subscribed
    refine ⟨tracked.complete, ?_, ?_, ?_⟩
    · rintro _ ⟨rfl⟩
      exact joined
    · rintro _ _ _ _ ⟨rfl⟩
      exact mined
    · rintro _ _ _ _ ⟨rfl⟩ pool block created lower upper
      exact mem_syncDex_visible created lower upper mined
  · cases taken

theorem Tracked.merge (tracked : Tracked sources head bot) (taken : bot.merge = some after) :
    Tracked sources head after := by
  unfold Indexer.merge at taken
  split at taken
  · next counter currentBlockNum number pools subscribed =>
    obtain rfl := Option.some.inj taken
    have joined := tracked.joined _ subscribed
    have fetched := tracked.fetched _ _ _ _ subscribed
    refine ⟨?_, ?_, ?_, ?_⟩
    · intro pool block created upper
      rcases joined pool block created with earlier | scanned
      · exact insertAll_of_ne_none pools (tracked.complete pool block created earlier)
      · exact insertAll_of_mem _ (fetched pool block created scanned upper)
    · rintro _ ⟨rfl⟩ pool block -
      exact Nat.le_total block number
    · rintro _ _ _ _ ⟨⟩
    · rintro _ _ _ _ ⟨⟩
  · cases taken

theorem Tracked.disconnect (tracked : Tracked sources head bot) (taken : bot.disconnect = some after) :
    Tracked sources head after := by
  unfold Indexer.disconnect at taken
  split at taken
  · obtain rfl := Option.some.inj taken
    refine ⟨tracked.complete, ?_, ?_, ?_⟩
    · rintro _ ⟨⟩
    · rintro _ _ _ _ ⟨⟩
    · rintro _ _ _ _ ⟨⟩
  · cases taken

end Tracked

section Steps

variable {sources : Sources} {state after : Indexing}

/-- The first synchronisation has found all pools up to its block, and every bot is on track. -/
structure OnTrack (sources : Sources) (state : Indexing) : Prop where
  syncing : ∀ currentBlock, state.startUp = .syncing currentBlock → currentBlock ≤ state.head
  running : ∀ currentBlock pools, state.startUp = .running currentBlock pools → ∀ pool block,
    sources.Created pool block → block ≤ currentBlock → pool ∈ pools
  bots : ∀ bot ∈ state.bots, Tracked sources state.head bot

theorem onTrack_new : OnTrack sources .new where
  syncing _ started := absurd started (by simp [Indexing.new])
  running _ _ started := absurd started (by simp [Indexing.new])
  bots _ mem := absurd mem List.not_mem_nil

/-- A bot that stays on track keeps all of them on track. -/
theorem OnTrack.act (onTrack : OnTrack sources state) {n : ℕ} {step : Indexer → Option Indexer}
    (keeps : ∀ bot next, state.bots[n]? = some bot → Tracked sources state.head bot
      → step bot = some next → Tracked sources state.head next)
    (taken : state.act n step = some after) : OnTrack sources after := by
  unfold Indexing.act at taken
  obtain ⟨bot, acting, taken⟩ := Option.bind_eq_some_iff.mp taken
  obtain ⟨next, moved, taken⟩ := Option.bind_eq_some_iff.mp taken
  obtain rfl := Option.some.inj taken
  refine ⟨onTrack.syncing, onTrack.running, fun other mem => ?_⟩
  rcases List.mem_or_eq_of_mem_set mem with earlier | rfl
  · exact onTrack.bots other earlier
  · exact keeps bot _ acting (onTrack.bots bot (List.mem_of_getElem? acting)) moved

theorem OnTrack.next (onTrack : OnTrack sources state) {step : Step}
    (seamless : Seamless sources state step) (taken : state.next sources step = some after) :
    OnTrack sources after := by
  cases step with
  | mine head =>
    obtain ⟨grows, taken⟩ := Option.ite_none_right_eq_some.mp taken
    obtain rfl := Option.some.inj taken
    exact ⟨fun currentBlock syncing => (onTrack.syncing currentBlock syncing).trans grows,
      onTrack.running, fun bot mem => (onTrack.bots bot mem).mono grows⟩
  | getBlockNumber currentBlock =>
    simp only [Indexing.next] at taken
    split at taken
    · obtain ⟨mined, taken⟩ := Option.ite_none_right_eq_some.mp taken
      obtain rfl := Option.some.inj taken
      refine ⟨?_, ?_, onTrack.bots⟩
      · rintro _ ⟨rfl⟩
        exact mined
      · rintro _ _ ⟨⟩
    · cases taken
  | firstSync =>
    simp only [Indexing.next] at taken
    split at taken
    · next currentBlock started =>
      obtain rfl := Option.some.inj taken
      refine ⟨?_, ?_, onTrack.bots⟩
      · rintro _ ⟨⟩
      · rintro _ _ ⟨rfl⟩ pool block created upper
        exact mem_firstPools created upper (onTrack.syncing _ started)
    · cases taken
  | runBot =>
    simp only [Indexing.next] at taken
    split at taken
    · next currentBlock pools started =>
      obtain rfl := Option.some.inj taken
      refine ⟨onTrack.syncing, onTrack.running, fun bot mem => ?_⟩
      rcases List.mem_append.mp mem with earlier | new
      · exact onTrack.bots bot earlier
      · obtain rfl := List.mem_singleton.mp new
        exact tracked_new (onTrack.running _ _ started)
    · cases taken
  | subscribe n currentBlockNum =>
    obtain ⟨-, taken⟩ := Option.ite_none_right_eq_some.mp taken
    exact onTrack.act (fun bot next acting tracked => tracked.subscribe (seamless bot acting)) taken
  | newBlock n number =>
    obtain ⟨mined, taken⟩ := Option.ite_none_right_eq_some.mp taken
    exact onTrack.act (fun bot next acting tracked => tracked.newBlock mined) taken
  | fetch n => exact onTrack.act (fun bot next acting tracked => tracked.fetch) taken
  | merge n => exact onTrack.act (fun bot next acting tracked => tracked.merge) taken
  | disconnect n => exact onTrack.act (fun bot next acting tracked => tracked.disconnect) taken

end Steps

/-- In every run in which no pool was created in the gap in front of a subscription, the map of every
bot holds in every state all pools created up to its last synchronised block. -/
theorem complete_of_seamless (sources : Sources) (steps : List (Indexing × Step)) (last : Indexing)
    (run : IndexingRun sources steps last) (seamless : Meets (Seamless sources) steps) :
    (∀ bot ∈ last.bots, Complete sources bot)
      ∧ Meets (fun state _ => ∀ bot ∈ state.bots, Complete sources bot) steps := by
  obtain ⟨final, visited⟩ := run.invariant_of_meets (@onTrack_new sources)
    (fun _ _ _ onTrack => onTrack.next) seamless
  exact ⟨fun bot mem => (final.bots bot mem).complete,
    fun taken there bot mem => ((visited taken there).bots bot mem).complete⟩

/-- A factory. -/
def factory : Dex := ⟨0x5C69bEe701ef814a2B6a3EDD4B1652CB9cc5aA6f, .uniswapV2, 10⟩

/-- The log of the pair of USDC and WETH. -/
def creation (block : ℕ) : Log := usdcPairLog factory.factoryAddress block

/-- The factory creates the pool in a block, and the task synchronises at every block. -/
def oneCreation (block : ℕ) : Sources where
  chain := [creation block]
  dexes := [factory]
  intervalBlockNewPool := 1
  fromFile := none

theorem newPoolFromEvent_creation (block : ℕ) :
    factory.newPoolFromEvent (creation block) = some usdcPair := by
  have first : factory.newPoolFromEvent (creation 0) = some usdcPair := by decide +kernel
  exact first

theorem created_oneCreation (block : ℕ) (lower : 10 ≤ block) :
    (oneCreation block).Created usdcPair block :=
  ⟨factory, List.mem_singleton_self _, creation block, List.mem_singleton_self _, rfl,
    newPoolFromEvent_creation block, rfl, lower⟩

theorem block_of_created {pool : TargetPool} {block created : ℕ}
    (found : (oneCreation block).Created pool created) : created = block := by
  obtain ⟨-, -, log, logged, -, -, rfl, -⟩ := found
  exact congrArg Log.block (List.mem_singleton.mp logged)

/-- The steps of a bot that starts at block 100, subscribes at block 102, and synchronises at block 103. -/
def startAt100 : List Step :=
  [.mine 100, .getBlockNumber 100, .firstSync, .runBot, .mine 102, .subscribe 0 102, .mine 103,
    .newBlock 0 103, .fetch 0, .merge 0]

/-- A pool created in block 103 is found. -/
theorem complete_of_seamless_103 : ∃ steps last, IndexingRun (oneCreation 103) steps last
    ∧ steps.map Prod.snd = startAt100 ∧ ∀ bot ∈ last.bots, Complete (oneCreation 103) bot := by
  obtain ⟨steps, labels, run⟩ := Run.exists_of_foldlM (Indexing.next (oneCreation 103)) .new _
    startAt100 rfl
  have seamless : Meets (fun _ step => ∀ state, Seamless (oneCreation 103) state step) steps := by
    refine meets_of_labels ?_
    rw [labels, startAt100]
    simp only [List.forall_mem_cons, List.not_mem_nil, false_implies, implies_true, and_true]
    refine ⟨?_, ?_, ?_, ?_, ?_, ?_, ?_, ?_, ?_, ?_⟩
    case refine_6 =>
      intro state bot acting pool block created
      rw [block_of_created created]
      exact .inr (by decide)
    all_goals exact fun _ => trivial
  exact ⟨steps, _, run, labels,
    (complete_of_seamless _ _ _ run fun taken mem => seamless taken mem taken.1).1⟩

/-- A pool created in block 101, between the start-up and the subscription, is not. -/
theorem not_complete_101 : ∃ steps last, IndexingRun (oneCreation 101) steps last
    ∧ steps.map Prod.snd = startAt100
    ∧ ∃ bot ∈ last.bots, bot.synced = 103 ∧ ¬ Complete (oneCreation 101) bot := by
  obtain ⟨steps, labels, run⟩ := Run.exists_of_foldlM (Indexing.next (oneCreation 101)) .new _
    startAt100 rfl
  refine ⟨steps, _, run, labels, _, List.mem_singleton_self _, rfl, fun complete => ?_⟩
  have found := complete usdcPair 101 (created_oneCreation 101 (by decide)) (by decide)
  exact found (by decide +kernel)

end Sando.Runner
