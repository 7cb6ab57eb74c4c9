/-
The bot.

`Bot.next` is one step of any of the loops and tasks of a running bot: the block oracle with its nonce,
its timers and the mega sandwich, the loop over the mempool, and the tasks that simulate a sandwich, file
its recipe and send its bundle. What the chain, the mempool and the EVM answer is part of the label of a
step, so that a run is any interleaving with any answers. Every bundle is kept with the block it is for
and with the nonce it is signed with. What a step can do is said by the transitions in `Bot.Steps`
(`Bot.steps_of_next`).
-/

import Sando.Runner.Indexing
import Sando.Runner.Oracles
import Sando.Simulate.CreateOptimalSandwich
import Sando.StateDiff.Merges

namespace Sando.Runner

open Sando.Evm Sando.TxBuilder Sando.Simulate Sando.Program Sando.StateDiff

/-! ### States -/

/-- What a bot is set up with. The nonce of the maker is replaced by the one that was fetched. -/
structure Config where
  maker : SandwichMaker
  keccak256 : List Byte → Word

/-- A sandwich for one pool: what its task has read, and the recipe when there is one. -/
structure PoolTask where
  victimTx : Meat
  pool : TargetPool
  blockOracle : BlockOracle
  sandwichBalance : Word
  optimalSandwich : Option OptimalRecipe

/-- A recipe whose bundle is about to be sent. -/
structure Sending where
  victimTx : Meat
  optimalSandwich : OptimalRecipe
  nextBlock : TargetBlock

/-- A mega sandwich: its block, the recipes it has read, and its own recipe when there is one. -/
structure MegaTask where
  nextBlock : TargetBlock
  recipes : PendingSandwiches (Computed OptimalRecipe)
  optimalSandwich : Option OptimalRecipe

/-- A bundle, with what it was made from. `victimTx` is there for a sandwich of one pool, and `refreshed`
logs the blocks behind which the nonce had been fetched, with what was fetched. -/
structure Sent where
  victimTx : Option Meat
  optimalSandwich : OptimalRecipe
  targetBlock : TargetBlock
  nonce : Word
  refreshed : List (Block × Word)
  bundle : BundleRequest

/-- A running bot. `current` is the number of the block that the pending sandwiches have been cleared
for. -/
structure Bot where
  nonce : Word
  refreshed : List (Block × Word)
  current : U64
  pendingSandwiches : PendingSandwiches (Computed OptimalRecipe)
  latestBlockOracle : BlockOracle
  allPools : AllPools
  wethBalance : Word
  phase : Phase
  timers : List Block
  /-- The victim that the loop over the mempool works on, with the oracle it has read. -/
  victim : Option (Meat × BlockOracle)
  tasks : List PoolTask
  sending : List Sending
  /-- The mega sandwich, which holds the lock of the pending sandwiches. -/
  mega : Option MegaTask
  sent : List Sent

/-- A new bot. -/
def Bot.new (nonce : Word) (blockOracle : BlockOracle) (allPools : AllPools) (wethBalance : Word) :
    Bot where
  nonce
  refreshed := []
  current := blockOracle.latestBlock.number
  pendingSandwiches := []
  latestBlockOracle := blockOracle
  allPools
  wethBalance
  phase := .waiting
  timers := []
  victim := none
  tasks := []
  sending := []
  mega := none
  sent := []

/-! ### Steps -/

inductive BotEvent
  /-- The block stream gives a block. -/
  | newBlock (block : Block)
  | updateSearcherNonce (nonce : Word)
  | clear
  | update
  | startTimer
  /-- A pool is added by the indexer. -/
  | insertPool (pool : TargetPool)
  /-- The mempool gives a transaction. -/
  | victim (victimTx : Meat)
  /-- Its sender is recovered, its trace is fetched, and a fork answers the balance of the contract. -/
  | look (sender : Option Address) (answer : Option (List BlockTrace)) (sandwichBalance : Word)
  /-- A simulation is done. -/
  | simulate (n : ℕ) (backend : Backend) (revenue : RawIngredients → ℕ → ℕ)
  | addRecipe (n : ℕ)
  | sendBundle (n random : ℕ)
  /-- A timer has run out. -/
  | makeMegaSandwich (n : ℕ)
  | simulateMega (backend : Backend) (revenue : RawIngredients → ℕ → ℕ)
  | sendMega (random : ℕ)

namespace Config

variable (config : Config)

/-- The simulation of some ingredients, with its recipe when there is revenue. -/
def createOptimalSandwich (backend : Backend) (revenue : RawIngredients → ℕ → ℕ)
    (nextBlock : TargetBlock) (balance : Word) (multiIngredients : List RawIngredients) :
    Option OptimalRecipe :=
  let setup : Setup := ⟨backend, nextBlock.toBlockInfo, config.keccak256, config.maker.searcherWallet,
    config.maker.sandwichAddress⟩
  let opportunities := multiIngredients.map fun ingredients => ⟨ingredients, revenue ingredients⟩
  match setup.createOptimalSandwich 264 opportunities balance .initial with
  | .ok optimalSandwich _ => if 0 < optimalSandwich.revenue then some optimalSandwich else none
  | .error _ _ => none

/-- Sign and send with a nonce. -/
def send (victimTx : Option Meat) (optimalSandwich : OptimalRecipe) (targetBlock : TargetBlock)
    (random : ℕ) (state : Bot) : List Sent :=
  match sendBundle optimalSandwich targetBlock { config.maker with nonce := state.nonce } random with
  | .ok bundle => [⟨victimTx, optimalSandwich, targetBlock, state.nonce, state.refreshed, bundle⟩]
  | .error _ => []

end Config

/-- What a mega sandwich is simulated with. -/
def MegaTask.ingredients (task : MegaTask) : List RawIngredients :=
  megaIngredients (task.recipes.map fun (pool, recipes) => (pool, recipes.map (·.recipe)))

/-- The state behind an event. None where there is nothing to do, and where the code panics. -/
def Bot.next (config : Config) (state : Bot) : BotEvent → Option Bot
  | .newBlock block =>
    match state.phase with
    | .waiting => some { state with phase := .refreshing block }
    | _ => none
  | .updateSearcherNonce nonce =>
    match state.phase with
    | .refreshing block =>
      some { state with nonce, refreshed := state.refreshed ++ [(block, nonce)], phase := .clearing block }
    | _ => none
  | .clear =>
    match state.phase, state.mega with
    | .clearing block, none =>
      some { state with
        pendingSandwiches := [], current := block.number.getD 0, phase := .updating block }
    | _, _ => none
  | .update =>
    match state.phase with
    | .updating block =>
      match state.latestBlockOracle.update block with
      | .ok latestBlockOracle => some { state with latestBlockOracle, phase := .starting block }
      | .error _ => none
    | _ => none
  | .startTimer =>
    match state.phase with
    | .starting block => some { state with timers := state.timers ++ [block], phase := .waiting }
    | _ => none
  | .insertPool pool => some { state with allPools := state.allPools.insert pool }
  | .victim victimTx =>
    match state.victim with
    | some _ => none
    | none =>
      let blockOracle := state.latestBlockOracle
      -- ignore txs that we can't include in next block
      if victimTx.maxFeePerGas.getD 0 < blockOracle.nextBlock.baseFee then some state
      else some { state with victim := some (victimTx, blockOracle) }
  | .look sender answer sandwichBalance =>
    match state.victim, sender with
    | none, _ => none
    | some _, none => some { state with victim := none }
    | some (victimTx, blockOracle), some sender =>
      let victimTx := { victimTx with fromAddress := sender }
      match (getFromTxs answer).bind fun stateDiffs =>
          extractPools config.keccak256 stateDiffs state.allPools with
      | none => some { state with victim := none }
      | some sandwichablePools =>
        some { state with
          victim := none
          wethBalance := sandwichBalance
          tasks := state.tasks ++ (sandwichablePools.filter (·.isWethInput)).map fun found =>
            ⟨victimTx, found.pool, blockOracle, sandwichBalance, none⟩ }
  | .simulate n backend revenue =>
    match state.tasks[n]? with
    | some ⟨victimTx, pool, blockOracle, sandwichBalance, none⟩ =>
      match config.createOptimalSandwich backend revenue blockOracle.nextBlock sandwichBalance
          [rawIngredients pool [victimTx] getWethAddress] with
      | some recipe =>
        some { state with
          tasks := state.tasks.set n ⟨victimTx, pool, blockOracle, sandwichBalance, some recipe⟩ }
      | none => some { state with tasks := state.tasks.eraseIdx n }
    | _ => none
  | .addRecipe n =>
    match state.tasks[n]?, state.mega with
    | some ⟨victimTx, pool, blockOracle, _, some recipe⟩, none =>
      some { state with
        tasks := state.tasks.eraseIdx n
        pendingSandwiches := addRecipe ⟨recipe, blockOracle⟩ pool state.pendingSandwiches
        sending := state.sending ++ [⟨victimTx, recipe, blockOracle.nextBlock⟩] }
    | _, _ => none
  | .sendBundle n random =>
    match state.sending[n]? with
    | some task =>
      some { state with
        sending := state.sending.eraseIdx n
        sent := state.sent
          ++ config.send (some task.victimTx) task.optimalSandwich task.nextBlock random state }
    | none => none
  | .makeMegaSandwich n =>
    match state.timers[n]?, state.mega with
    | some block, none =>
      match findNextBlockInfo block with
      | .ok nextBlock =>
        some { state with
          timers := state.timers.eraseIdx n
          mega := some ⟨nextBlock, state.pendingSandwiches, none⟩ }
      | .error _ => none
    | _, _ => none
  | .simulateMega backend revenue =>
    match state.mega with
    | some task =>
      match task.optimalSandwich, config.createOptimalSandwich backend revenue task.nextBlock
          state.wethBalance task.ingredients with
      | none, some recipe => some { state with mega := some { task with optimalSandwich := some recipe } }
      | none, none => some { state with mega := none }
      | some _, _ => none
    | none => none
  | .sendMega random =>
    match state.mega with
    | some ⟨nextBlock, _, some recipe⟩ =>
      some { state with
        mega := none
        sent := state.sent ++ config.send none recipe nextBlock random state }
    | _ => none

/-! ### Transitions -/

section Transitions

variable (config : Config) (state : Bot)

/-- The transitions of a bot, one after the other. -/
inductive Bot.Steps : BotEvent → Bot → Prop
  | newBlock {block : Block} (phase : state.phase = .waiting) :
      Steps (.newBlock block) { state with phase := .refreshing block }
  | updateSearcherNonce {block : Block} {nonce : Word} (phase : state.phase = .refreshing block) :
      Steps (.updateSearcherNonce nonce) { state with
        nonce, refreshed := state.refreshed ++ [(block, nonce)], phase := .clearing block }
  | clear {block : Block} (phase : state.phase = .clearing block) (free : state.mega = none) :
      Steps .clear { state with
        pendingSandwiches := [], current := block.number.getD 0, phase := .updating block }
  | update {block : Block} {latestBlockOracle : BlockOracle} (phase : state.phase = .updating block)
      (updated : state.latestBlockOracle.update block = .ok latestBlockOracle) :
      Steps .update { state with latestBlockOracle, phase := .starting block }
  | startTimer {block : Block} (phase : state.phase = .starting block) :
      Steps .startTimer { state with timers := state.timers ++ [block], phase := .waiting }
  | insertPool {pool : TargetPool} :
      Steps (.insertPool pool) { state with allPools := state.allPools.insert pool }
  | ignoreVictim {victimTx : Meat} : Steps (.victim victimTx) state
  | victim {victimTx : Meat}
      (pays : state.latestBlockOracle.nextBlock.baseFee ≤ victimTx.maxFeePerGas.getD 0) :
      Steps (.victim victimTx) { state with victim := some (victimTx, state.latestBlockOracle) }
  | loseVictim {sender : Option Address} {answer : Option (List BlockTrace)} {sandwichBalance : Word} :
      Steps (.look sender answer sandwichBalance) { state with victim := none }
  | look {victimTx : Meat} {blockOracle : BlockOracle} {sender : Address}
      {answer : Option (List BlockTrace)} {sandwichBalance : Word} {stateDiffs : StateDiffs}
      {sandwichablePools : List SandwichablePool} (seen : state.victim = some (victimTx, blockOracle))
      (traced : getFromTxs answer = some stateDiffs)
      (extracts : extractPools config.keccak256 stateDiffs state.allPools = some sandwichablePools) :
      Steps (.look (some sender) answer sandwichBalance) { state with
        victim := none
        wethBalance := sandwichBalance
        tasks := state.tasks ++ (sandwichablePools.filter (·.isWethInput)).map fun found =>
          ⟨{ victimTx with fromAddress := sender }, found.pool, blockOracle, sandwichBalance, none⟩ }
  | simulate {n : ℕ} {backend : Backend} {revenue : RawIngredients → ℕ → ℕ} {task : PoolTask}
      {recipe : OptimalRecipe} (listed : state.tasks[n]? = some task)
      (found : config.createOptimalSandwich backend revenue task.blockOracle.nextBlock
        task.sandwichBalance [rawIngredients task.pool [task.victimTx] getWethAddress] = some recipe) :
      Steps (.simulate n backend revenue) { state with
        tasks := state.tasks.set n { task with optimalSandwich := some recipe } }
  | dropTask {n : ℕ} {backend : Backend} {revenue : RawIngredients → ℕ → ℕ} :
      Steps (.simulate n backend revenue) { state with tasks := state.tasks.eraseIdx n }
  | addRecipe {n : ℕ} {task : PoolTask} {recipe : OptimalRecipe} (listed : state.tasks[n]? = some task)
      (computed : task.optimalSandwich = some recipe) :
      Steps (.addRecipe n) { state with
        tasks := state.tasks.eraseIdx n
        pendingSandwiches := Runner.addRecipe ⟨recipe, task.blockOracle⟩ task.pool state.pendingSandwiches
        sending := state.sending ++ [⟨task.victimTx, recipe, task.blockOracle.nextBlock⟩] }
  | sendBundle {n random : ℕ} {task : Sending} (listed : state.sending[n]? = some task) :
      Steps (.sendBundle n random) { state with
        sending := state.sending.eraseIdx n
        sent := state.sent
          ++ config.send (some task.victimTx) task.optimalSandwich task.nextBlock random state }
  | makeMegaSandwich {n : ℕ} {block : Block} {nextBlock : TargetBlock}
      (listed : state.timers[n]? = some block) (found : findNextBlockInfo block = .ok nextBlock) :
      Steps (.makeMegaSandwich n) { state with
        timers := state.timers.eraseIdx n
        mega := some ⟨nextBlock, state.pendingSandwiches, none⟩ }
  | simulateMega {backend : Backend} {revenue : RawIngredients → ℕ → ℕ} {task : MegaTask}
      {recipe : OptimalRecipe} (running : state.mega = some task)
      (found : config.createOptimalSandwich backend revenue task.nextBlock state.wethBalance
        task.ingredients = some recipe) :
      Steps (.simulateMega backend revenue) { state with
        mega := some { task with optimalSandwich := some recipe } }
  | dropMega {backend : Backend} {revenue : RawIngredients → ℕ → ℕ} :
      Steps (.simulateMega backend revenue) { state with mega := none }
  | sendMega {random : ℕ} {task : MegaTask} {recipe : OptimalRecipe} (running : state.mega = some task)
      (computed : task.optimalSandwich = some recipe) :
      Steps (.sendMega random) { state with
        mega := none
        sent := state.sent ++ config.send none recipe task.nextBlock random state }

variable {config state} {event : BotEvent} {after : Bot}

/-- Every step is one of the transitions. -/
theorem Bot.steps_of_next (taken : state.next config event = some after) :
    state.Steps config event after := by
  cases event with
  | newBlock block =>
    simp only [Bot.next] at taken
    split at taken <;> cases taken
    next phase => exact .newBlock phase
  | updateSearcherNonce nonce =>
    simp only [Bot.next] at taken
    split at taken <;> cases taken
    next phase => exact .updateSearcherNonce phase
  | clear =>
    simp only [Bot.next] at taken
    split at taken <;> cases taken
    next phase free => exact .clear phase free
  | update =>
    simp only [Bot.next] at taken
    split at taken
    · next phase =>
      split at taken <;> cases taken
      next updated => exact .update phase updated
    · cases taken
  | startTimer =>
    simp only [Bot.next] at taken
    split at taken <;> cases taken
    next phase => exact .startTimer phase
  | insertPool pool =>
    cases taken
    exact .insertPool
  | victim victimTx =>
    simp only [Bot.next] at taken
    split at taken
    · cases taken
    · split at taken <;> cases taken
      · exact .ignoreVictim
      · next pays => exact .victim (BitVec.not_lt.mp pays)
  | look sender answer sandwichBalance =>
    simp only [Bot.next] at taken
    split at taken
    · cases taken
    · cases taken
      exact .loseVictim
    · next seen =>
      split at taken <;> cases taken
      · exact .loseVictim
      · next found =>
        obtain ⟨stateDiffs, traced, extracts⟩ := Option.bind_eq_some_iff.mp found
        exact .look seen traced extracts
  | simulate n backend revenue =>
    simp only [Bot.next] at taken
    split at taken
    · next listed =>
      split at taken <;> cases taken
      · next found => exact .simulate listed found
      · exact .dropTask
    · cases taken
  | addRecipe n =>
    simp only [Bot.next] at taken
    split at taken <;> cases taken
    next listed _ => exact .addRecipe listed rfl
  | sendBundle n random =>
    simp only [Bot.next] at taken
    split at taken <;> cases taken
    next listed => exact .sendBundle listed
  | makeMegaSandwich n =>
    simp only [Bot.next] at taken
    split at taken
    · next listed _ =>
      split at taken <;> cases taken
      next found => exact .makeMegaSandwich listed found
    · cases taken
  | simulateMega backend revenue =>
    simp only [Bot.next] at taken
    split at taken
    · next running =>
      split at taken <;> cases taken
      · next found => exact .simulateMega running found
      · exact .dropMega
    · cases taken
  | sendMega random =>
    simp only [Bot.next] at taken
    split at taken <;> cases taken
    next running => exact .sendMega running rfl

end Transitions

/-- A run of a bot. -/
abbrev BotRun (config : Config) (start : Bot) : List (Bot × BotEvent) → Bot → Prop :=
  Run (fun state event after => state.next config event = some after) start

end Sando.Runner
