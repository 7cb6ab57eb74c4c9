/-
The bundles of a bot.

Whatever happens, a bundle has revenue and at least one victim; the victim of a sandwich of one pool can
be included in the block that the bundle is for, and those of a mega sandwich in the block that their
recipe was computed for; and the nonce is the latest one, fetched behind the parent of the block
(`bundles_right`). When the recipes are filed and read in time and the chain is not reorganised, all
victims can be included in the block that the bundle is for (`victims_pay`).

`Bot.Sound` is the invariant of both. It follows a victim and the block it was seen behind from the
mempool through its task and the pending recipes into the bundles.
-/

import Mathlib.Data.List.Flatten
import Sando.Runner.Bot

namespace Sando.Runner

open Sando.Evm Sando.TxBuilder Sando.Simulate Sando.Program Sando.StateDiff

/-! ### The meats of a recipe -/

section Meats

variable {setup : Setup} {meats : List Meat}

/-- A recipe has a meat. -/
theorem sanityCheck_meats (sandwichStartBalance : Word) (frontrunIns : List Word)
    (multiIngredients : List RawIngredients) : Triple (fun _ => True)
      (setup.sanityCheck sandwichStartBalance frontrunIns multiIngredients)
      (fun recipe _ => recipe.meats ≠ []) fun _ _ => True := by
  have anything {α : Type} {program : Simulation α} :
      Triple (fun _ => True) program (fun _ _ => True) fun _ _ => True := triple_trivial trivial
  refine triple_bind _ anything fun frontruns => triple_bind _ anything fun frontrun => ?_
  refine triple_bind _ anything fun goodMeats => triple_ite (fun _ => ?_) fun there => ?_
  · exact triple_bind (fun _ _ => False) (triple_throw fun _ _ => trivial) fun _ _ => False.elim
  · refine triple_bind _ anything fun backrun => triple_bind _ anything fun sent => ?_
    exact triple_bind _ anything fun balance => triple_pure fun _ _ => there

theorem mem_sortMeats {meat : Meat} (there : meat ∈ sortMeats meats) : meat ∈ meats :=
  (List.mem_insertionSort _).mp ((List.destutter_sublist _ _).subset there)

theorem length_sortMeats_le : (sortMeats meats).length ≤ meats.length :=
  (List.destutter_sublist _ _).length_le.trans (List.length_insertionSort _ _).le

/-- The ingredients that are kept are some of those searched, in order. -/
theorem collectOptimals_sublist (fuel : ℕ) (opportunities : List Opportunity) :
    ∀ collected final, collectOptimals fuel opportunities collected = some final →
      final.goodIngredients.Sublist
        (collected.goodIngredients ++ opportunities.map (·.ingredients)) := by
  induction opportunities with
  | nil =>
    rintro collected final ⟨⟩
    rw [List.map_nil, List.append_nil]
  | cons opportunity rest ih =>
    intro collected final run
    simp only [collectOptimals, Option.bind_eq_bind, Option.bind_eq_some_iff] at run
    obtain ⟨⟨optimal, rounds⟩, -, run⟩ := run
    split at run
    · refine (ih _ _ run).trans ?_
      rw [List.map_cons]
      exact (List.Sublist.refl _).append (List.sublist_cons_self _ _)
    · have there := ih _ _ run
      rwa [Collected.keep, List.append_assoc, List.singleton_append] at there

variable {config : Config} {backend : Backend} {revenue : RawIngredients → ℕ → ℕ}
  {nextBlock : TargetBlock} {balance : Word} {multiIngredients : List RawIngredients}
  {recipe : OptimalRecipe}

/-- A recipe with revenue is the result of a sanity check of some of the ingredients. -/
theorem createOptimalSandwich_eq_some (found : config.createOptimalSandwich backend revenue nextBlock
    balance multiIngredients = some recipe) :
    0 < recipe.revenue ∧ ∃ kept frontrunIns final, kept.Sublist multiIngredients
      ∧ Setup.sanityCheck ⟨backend, nextBlock.toBlockInfo, config.keccak256, config.maker.searcherWallet,
        config.maker.sandwichAddress⟩ balance frontrunIns kept .initial = .ok recipe final := by
  unfold Config.createOptimalSandwich at found
  simp only at found
  split at found
  case h_2 => cases found
  case h_1 optimalSandwich final run =>
  split at found
  case isFalse => cases found
  case isTrue positive =>
  obtain rfl := Option.some.inj found
  obtain ⟨collected, between, searched, run⟩ := bind_eq_ok.mp run
  obtain ⟨collects, rfl⟩ := ofOption_eq_ok.mp searched
  have kept : collected.goodIngredients.Sublist multiIngredients := by
    have there := collectOptimals_sublist _ _ _ _ collects
    rwa [List.map_map, show Opportunity.ingredients ∘ (fun ingredients =>
      (⟨ingredients, revenue ingredients⟩ : Opportunity)) = id from rfl, List.map_id] at there
  split at run
  · exact absurd run throw_ne_ok
  exact ⟨positive, _, _, final, kept, run⟩

/-- A recipe has revenue, and meats of its ingredients, some or all of them. -/
theorem optimalSandwich_meats (found : config.createOptimalSandwich backend revenue nextBlock balance
    multiIngredients = some recipe) :
    0 < recipe.revenue ∧ recipe.meats ≠ []
      ∧ recipe.meats.length ≤ (multiIngredients.flatMap (·.meats)).length
      ∧ ∀ meat ∈ recipe.meats, meat ∈ multiIngredients.flatMap (·.meats) := by
  obtain ⟨positive, kept, frontrunIns, final, sublist, run⟩ := createOptimalSandwich_eq_some found
  obtain ⟨names, sorted⟩ := (sanityCheck_executed _ _ _).of_ok
    (show Executed _ [] .initial from rfl) run
  have some := (sanityCheck_meats _ _ _).of_ok trivial run
  have within : (succeeded (executions backend final.ran)).Sublist
      (multiIngredients.flatMap (·.meats)) := by
    refine List.Sublist.trans (List.filter_sublist.map _) ?_
    rw [names]
    exact sublist.flatMap _
  rw [sorted] at some ⊢
  exact ⟨positive, some, length_sortMeats_le.trans within.length_le,
    fun meat there => within.subset (mem_sortMeats there)⟩

end Meats

/-! ### What a bundle should be -/

/-- A victim can be included in a block. -/
def Pays (nextBlock : TargetBlock) (victimTx : Meat) : Prop :=
  nextBlock.baseFee ≤ victimTx.maxFeePerGas.getD 0

/-- A block that the bot aims at: its first one, or the one behind a block that it has fetched the nonce
for. -/
def Aims (first : TargetBlock) (refreshed : List (Block × Word)) (nextBlock : TargetBlock) : Prop :=
  nextBlock = first ∨ ∃ block ∈ refreshed.map Prod.fst, findNextBlockInfo block = .ok nextBlock

/-- The nonce that was fetched last. -/
def latestNonce (start : Word) (refreshed : List (Block × Word)) : Word :=
  (refreshed.getLast?.map Prod.snd).getD start

/-- A task adds its recipe before the sandwiches are cleared for another block than the one it has read,
and a timer runs out before they are cleared for another block than its own, unless nothing is pending. -/
def Bot.InTime (state : Bot) : BotEvent → Prop
  | .addRecipe n => ∀ task ∈ state.tasks[n]?, task.blockOracle.nextBlock.number = state.current + 1
  | .makeMegaSandwich n => ∀ block ∈ state.timers[n]?,
      block.number.getD 0 = state.current ∨ state.pendingSandwiches = []
  | _ => True

instance (state : Bot) : (event : BotEvent) → Decidable (state.InTime event)
  | .addRecipe n => inferInstanceAs (Decidable (∀ task ∈ state.tasks[n]?, _))
  | .makeMegaSandwich n => inferInstanceAs (Decidable (∀ block ∈ state.timers[n]?, _))
  | .newBlock _ | .updateSearcherNonce _ | .clear | .update | .startTimer | .insertPool _ | .victim _
  | .look .. | .simulate .. | .sendBundle .. | .simulateMega .. | .sendMega _ => isTrue trivial

/-- Revenue, and meats with some property. -/
structure Profits (good : Meat → Prop) (recipe : OptimalRecipe) : Prop where
  revenue : 0 < recipe.revenue
  meats : recipe.meats ≠ []
  good : ∀ meat ∈ recipe.meats, good meat

/-- A victim can be included in a block that the bot aims at, which in a timely run has a given
number. -/
def PaysFor (first : TargetBlock) (timely : Prop) (refreshed : List (Block × Word)) (number : U64)
    (victimTx : Meat) : Prop :=
  ∃ nextBlock, Aims first refreshed nextBlock ∧ (timely → nextBlock.number = number)
    ∧ Pays nextBlock victimTx

/-- What a bundle of a bot should be. -/
structure Sent.Right (config : Config) (start : Word) (first : TargetBlock) (timely : Prop)
    (sent : Sent) : Prop where
  bundle : ∃ random, sendBundle sent.optimalSandwich sent.targetBlock
    { config.maker with nonce := sent.nonce } random = .ok sent.bundle
  /-- A sandwich of one pool has its victim and nothing else, which can be included. -/
  single : ∀ victimTx, sent.victimTx = some victimTx → sent.optimalSandwich.meats = [victimTx]
    ∧ Pays sent.targetBlock victimTx
  meats : Profits (PaysFor first timely sent.refreshed sent.targetBlock.number) sent.optimalSandwich
  /-- The nonce is the latest one, fetched behind the parent of the block. -/
  nonce : sent.nonce = latestNonce start sent.refreshed
  fresh : Aims first sent.refreshed sent.targetBlock

/-! ### The invariant -/

/-- The block that the loop over the block stream has fetched the nonce for. -/
def Phase.block : Phase → Option Block
  | .waiting | .refreshing _ => none
  | .clearing block | .updating block | .starting block => some block

/-- What is known about a task. -/
structure PoolTask.Sound (first : TargetBlock) (refreshed : List (Block × Word)) (task : PoolTask) :
    Prop where
  pays : Pays task.blockOracle.nextBlock task.victimTx
  fresh : Aims first refreshed task.blockOracle.nextBlock
  single : ∀ recipe, task.optimalSandwich = some recipe →
    0 < recipe.revenue ∧ recipe.meats = [task.victimTx]

/-- What is known about a recipe that is about to be sent. -/
structure Sending.Sound (first : TargetBlock) (refreshed : List (Block × Word)) (task : Sending) :
    Prop where
  pays : Pays task.nextBlock task.victimTx
  fresh : Aims first refreshed task.nextBlock
  single : 0 < task.optimalSandwich.revenue ∧ task.optimalSandwich.meats = [task.victimTx]

/-- The meats of some recipes can be included. -/
def AllPay (good : Meat → Prop) (pending : PendingSandwiches (Computed OptimalRecipe)) : Prop :=
  ∀ entry ∈ pending, ∀ computed ∈ entry.2, ∀ meat ∈ computed.recipe.meats, good meat

/-- What is known about a mega sandwich. -/
structure MegaTask.Sound (first : TargetBlock) (timely : Prop) (refreshed : List (Block × Word))
    (task : MegaTask) : Prop where
  recipes : AllPay (PaysFor first timely refreshed task.nextBlock.number) task.recipes
  fresh : Aims first refreshed task.nextBlock
  profits : ∀ recipe, task.optimalSandwich = some recipe →
    Profits (PaysFor first timely refreshed task.nextBlock.number) recipe

/-- What is known about a bot. -/
structure Bot.Sound (config : Config) (start : Word) (first : TargetBlock) (timely : Prop)
    (state : Bot) : Prop where
  nonce : state.nonce = latestNonce start state.refreshed
  oracle : Aims first state.refreshed state.latestBlockOracle.nextBlock
  phase : ∀ block, state.phase.block = some block → block ∈ state.refreshed.map Prod.fst
  timers : ∀ block ∈ state.timers, block ∈ state.refreshed.map Prod.fst
  victim : ∀ victimTx blockOracle, state.victim = some (victimTx, blockOracle) →
    Pays blockOracle.nextBlock victimTx ∧ Aims first state.refreshed blockOracle.nextBlock
  tasks : ∀ task ∈ state.tasks, task.Sound first state.refreshed
  sending : ∀ task ∈ state.sending, task.Sound first state.refreshed
  pending : AllPay (PaysFor first timely state.refreshed (state.current + 1)) state.pendingSandwiches
  mega : ∀ task, state.mega = some task → task.Sound first timely state.refreshed
  sent : ∀ sent ∈ state.sent, sent.Right config start first timely

section Sound

variable {config : Config} {start : Word} {first : TargetBlock} {timely : Prop} {state after : Bot}
  {refreshed more : List (Block × Word)} {nextBlock : TargetBlock} {number : U64} {meat : Meat}

theorem Aims.append (aims : Aims first refreshed nextBlock) :
    Aims first (refreshed ++ more) nextBlock := by
  rcases aims with rfl | ⟨block, there, found⟩
  · exact .inl rfl
  · rw [Aims, List.map_append]
    exact .inr ⟨block, List.mem_append_left _ there, found⟩

theorem PaysFor.append (pays : PaysFor first timely refreshed number meat) :
    PaysFor first timely (refreshed ++ more) number meat := by
  obtain ⟨nextBlock, aims, same, pays⟩ := pays
  exact ⟨nextBlock, aims.append, same, pays⟩

theorem PoolTask.Sound.append {task : PoolTask} (sound : task.Sound first refreshed) :
    task.Sound first (refreshed ++ more) := ⟨sound.pays, sound.fresh.append, sound.single⟩

theorem Sending.Sound.append {task : Sending} (sound : task.Sound first refreshed) :
    task.Sound first (refreshed ++ more) := ⟨sound.pays, sound.fresh.append, sound.single⟩

theorem AllPay.weaken {good weaker : Meat → Prop}
    {pending : PendingSandwiches (Computed OptimalRecipe)} (pay : AllPay good pending)
    (weak : ∀ meat, good meat → weaker meat) : AllPay weaker pending :=
  fun entry there computed listed meat holds => weak meat (pay entry there computed listed meat holds)

theorem MegaTask.Sound.append {task : MegaTask} (sound : task.Sound first timely refreshed) :
    task.Sound first timely (refreshed ++ more) where
  recipes := sound.recipes.weaken fun _ pays => pays.append
  fresh := sound.fresh.append
  profits recipe there :=
    let profits := sound.profits recipe there
    ⟨profits.revenue, profits.meats, fun meat holds => (profits.good meat holds).append⟩

/-- Nothing is there. -/
theorem forall_of_none {α : Type} {property : α → Prop} (value : α)
    (missing : (none : Option α) = some value) : property value :=
  absurd missing (Option.some_ne_none value).symm

/-- A new bot. -/
theorem sound_new (config : Config) (start : Word) (blockOracle : BlockOracle) (allPools : AllPools)
    (wethBalance : Word) (timely : Prop) :
    (Bot.new start blockOracle allPools wethBalance).Sound config start blockOracle.nextBlock timely
    where
  nonce := rfl
  oracle := .inl rfl
  phase _ none := nomatch none
  timers _ there := nomatch there
  victim _ _ none := nomatch none
  tasks _ there := nomatch there
  sending _ there := nomatch there
  pending _ there := nomatch there
  mega _ none := nomatch none
  sent _ there := nomatch there

/-- The oracle is updated to the block that is found ahead. -/
theorem findNextBlockInfo_update {oracle updated : BlockOracle} {block : Block}
    (ok : oracle.update block = .ok updated) : findNextBlockInfo block = .ok updated.nextBlock := by
  unfold BlockOracle.update at ok
  split at ok
  · cases ok
  · next number known =>
    obtain ⟨numbered, one, ok⟩ := except_bind ok
    obtain ⟨stamped, two, ok⟩ := except_bind ok
    obtain ⟨next, found, numbers⟩ := except_bind one
    obtain ⟨timestamp, later, stamps⟩ := except_bind two
    obtain ⟨baseFee, fee, updates⟩ := except_bind ok
    obtain rfl := Except.ok.inj updates
    obtain rfl := Except.ok.inj stamps
    obtain rfl := Except.ok.inj numbers
    simp only [findNextBlockInfo, known, Option.getD_some, found, later, fee]
    rfl

/-- A recipe is filed behind those of its pool, and the other pools stay as they are. -/
theorem mem_addRecipe {Recipe : Type} {recipe : Recipe} {pool : TargetPool}
    {pending : PendingSandwiches Recipe} {entry : TargetPool × List Recipe}
    (there : entry ∈ addRecipe recipe pool pending) : entry ∈ pending ∨ entry.1 = pool
      ∧ ∀ filed ∈ entry.2, filed = recipe ∨ ∃ earlier, (pool, earlier) ∈ pending ∧ filed ∈ earlier := by
  induction pending with
  | nil =>
    obtain rfl := List.mem_singleton.mp there
    exact .inr ⟨rfl, fun filed listed => .inl (List.mem_singleton.mp listed)⟩
  | cons head rest ih =>
    rw [Runner.addRecipe] at there
    by_cases same : head.1 = pool
    · rw [if_pos same] at there
      rcases List.mem_cons.mp there with rfl | there
      · refine .inr ⟨same, fun filed listed => ?_⟩
        rcases List.mem_append.mp listed with earlier | new
        · exact .inr ⟨head.2, same ▸ List.mem_cons_self, earlier⟩
        · exact .inl (List.mem_singleton.mp new)
      · exact .inl (.tail _ there)
    · rw [if_neg same] at there
      rcases List.mem_cons.mp there with rfl | there
      · exact .inl List.mem_cons_self
      · rcases ih there with earlier | both
        · exact .inl (.tail _ earlier)
        · refine .inr ⟨both.1, fun filed listed => ?_⟩
          rcases both.2 filed listed with new | earlier
          · exact .inl new
          · obtain ⟨earlier, there, holds⟩ := earlier
            exact .inr ⟨earlier, .tail _ there, holds⟩

/-- The recipes behind `addRecipe`. -/
theorem AllPay.addRecipe {good : Meat → Prop} {pending : PendingSandwiches (Computed OptimalRecipe)}
    (pay : AllPay good pending) {computed : Computed OptimalRecipe} (pool : TargetPool)
    (here : ∀ meat ∈ computed.recipe.meats, good meat) : AllPay good (addRecipe computed pool pending) := by
  intro entry there other listed
  rcases mem_addRecipe there with known | ⟨-, all⟩
  · exact pay entry known other listed
  · rcases all other listed with rfl | ⟨earlier, known, holds⟩
    · exact here
    · exact pay _ known other holds

@[simp] theorem targetPool_rawIngredients (pool : TargetPool) (meats : List Meat) (token : Address) :
    (rawIngredients pool meats token).targetPool = pool := by
  unfold rawIngredients
  split <;> rfl

@[simp] theorem meats_rawIngredients (pool : TargetPool) (meats : List Meat) (token : Address) :
    (rawIngredients pool meats token).meats = meats := by
  unfold rawIngredients
  split <;> rfl

/-- A mega sandwich is made of the pools and the meats of its recipes. -/
theorem MegaTask.mem_ingredients {task : MegaTask} {ingredients : RawIngredients}
    (made : ingredients ∈ task.ingredients) : ∃ entry ∈ task.recipes, ingredients.targetPool = entry.1
      ∧ ∀ meat ∈ ingredients.meats, ∃ computed ∈ entry.2, meat ∈ computed.recipe.meats := by
  obtain ⟨_, listed, rfl⟩ := List.mem_map.mp made
  obtain ⟨⟨pool, recipes⟩, entry, rfl⟩ := List.mem_map.mp listed
  refine ⟨_, entry, targetPool_rawIngredients _ _ _, fun meat there => ?_⟩
  rw [meats_rawIngredients] at there
  obtain ⟨recipe, listed, holds⟩ := List.mem_flatMap.mp there
  obtain ⟨computed, member, rfl⟩ := List.mem_map.mp ((List.mem_insertionSort _).mp listed)
  exact ⟨computed, member, holds⟩

/-- The bundle of a good recipe is right. -/
theorem right_of_send (sound : state.Sound config start first timely) {victimTx : Option Meat}
    {recipe : OptimalRecipe} {targetBlock : TargetBlock} {random : ℕ}
    (single : ∀ victim, victimTx = some victim → recipe.meats = [victim] ∧ Pays targetBlock victim)
    (meats : Profits (PaysFor first timely state.refreshed targetBlock.number) recipe)
    (fresh : Aims first state.refreshed targetBlock) :
    ∀ sent ∈ state.sent ++ config.send victimTx recipe targetBlock random state,
      sent.Right config start first timely := by
  intro sent there
  rcases List.mem_append.mp there with earlier | new
  · exact sound.sent sent earlier
  · unfold Config.send at new
    split at new
    · next bundle sends =>
      obtain rfl := List.mem_singleton.mp new
      exact ⟨⟨random, sends⟩, single, meats, sound.nonce, fresh⟩
    · exact absurd new List.not_mem_nil

/-- The nonce is fetched for a block. -/
theorem Bot.Sound.refresh (sound : state.Sound config start first timely) (block : Block)
    (nonce : Word) : Bot.Sound config start first timely { state with
      nonce, refreshed := state.refreshed ++ [(block, nonce)], phase := .clearing block } := by
  have grows : ∀ old ∈ state.refreshed.map Prod.fst,
      old ∈ (state.refreshed ++ [(block, nonce)]).map Prod.fst := by
    intro old there
    rw [List.map_append]
    exact List.mem_append_left _ there
  exact {
    nonce := by simp [latestNonce]
    oracle := sound.oracle.append
    phase := by
      rintro _ ⟨⟩
      simp
    timers := fun old there => grows old (sound.timers old there)
    victim := fun victimTx oracle seen =>
      ⟨(sound.victim victimTx oracle seen).1, (sound.victim victimTx oracle seen).2.append⟩
    tasks := fun task there => (sound.tasks task there).append
    sending := fun task there => (sound.sending task there).append
    pending := sound.pending.weaken fun _ pays => pays.append
    mega := fun task there => (sound.mega task there).append
    sent := sound.sent }

/-- The oracle is updated for a block. -/
theorem Bot.Sound.update (sound : state.Sound config start first timely) {block : Block}
    {latestBlockOracle : BlockOracle} (phase : state.phase = .updating block)
    (ok : state.latestBlockOracle.update block = .ok latestBlockOracle) :
    Bot.Sound config start first timely { state with latestBlockOracle, phase := .starting block } := by
  have fetched : block ∈ state.refreshed.map Prod.fst := sound.phase block (by rw [phase]; rfl)
  exact { sound with
    oracle := .inr ⟨block, fetched, findNextBlockInfo_update ok⟩
    phase := fun other same => sound.phase other (by rw [phase]; exact same) }

/-- Tasks are started for a victim. -/
theorem Bot.Sound.look (sound : state.Sound config start first timely) {victimTx : Meat}
    {blockOracle : BlockOracle} (seen : state.victim = some (victimTx, blockOracle)) (sender : Address)
    (sandwichBalance : Word) (pools : List TargetPool) :
    Bot.Sound config start first timely { state with
      victim := none
      wethBalance := sandwichBalance
      tasks := state.tasks ++ pools.map fun pool =>
        ⟨{ victimTx with fromAddress := sender }, pool, blockOracle, sandwichBalance, none⟩ } := by
  obtain ⟨pays, fresh⟩ := sound.victim _ _ seen
  refine { sound with victim := fun _ _ none => (nomatch none), tasks := fun task there => ?_ }
  rcases List.mem_append.mp there with earlier | new
  · exact sound.tasks task earlier
  · obtain ⟨pool, -, rfl⟩ := List.mem_map.mp new
    exact ⟨pays, fresh, fun _ none => nomatch none⟩

/-- A simulation of one victim has a recipe with that victim. -/
theorem single_meats {backend : Backend} {revenue : RawIngredients → ℕ → ℕ} {balance : Word}
    {pool : TargetPool} {victimTx : Meat} {recipe : OptimalRecipe}
    (found : config.createOptimalSandwich backend revenue nextBlock balance
      [rawIngredients pool [victimTx] getWethAddress] = some recipe) :
    0 < recipe.revenue ∧ recipe.meats = [victimTx] := by
  obtain ⟨positive, some, few, all⟩ := optimalSandwich_meats found
  have meats : [rawIngredients pool [victimTx] getWethAddress].flatMap (·.meats) = [victimTx] := by simp
  rw [meats] at few all
  refine ⟨positive, ?_⟩
  cases listed : recipe.meats with
  | nil => exact absurd listed some
  | cons head rest =>
    rw [listed] at few all
    have none : rest = [] := List.length_eq_zero_iff.mp (Nat.le_zero.mp (Nat.le_of_succ_le_succ few))
    rw [none, List.mem_singleton.mp (all head List.mem_cons_self)]

/-- A mega sandwich has a recipe with meats of the recipes that it has read. -/
theorem MegaTask.Sound.simulated {task : MegaTask} (sound : task.Sound first timely refreshed)
    {backend : Backend} {revenue : RawIngredients → ℕ → ℕ} {balance : Word} {recipe : OptimalRecipe}
    (found : config.createOptimalSandwich backend revenue task.nextBlock balance task.ingredients
      = some recipe) :
    { task with optimalSandwich := some recipe }.Sound first timely refreshed := by
  obtain ⟨positive, some, -, all⟩ := optimalSandwich_meats found
  refine ⟨sound.recipes, sound.fresh, ?_⟩
  rintro _ ⟨⟩
  refine ⟨positive, some, fun meat there => ?_⟩
  obtain ⟨ingredients, made, there⟩ := List.mem_flatMap.mp (all meat there)
  obtain ⟨entry, listed, -, meats⟩ := MegaTask.mem_ingredients made
  obtain ⟨computed, member, holds⟩ := meats meat there
  exact sound.recipes entry listed computed member meat holds

/-- A timer runs out. -/
theorem Bot.Sound.makeMega (sound : state.Sound config start first timely) {block : Block} {n : ℕ}
    (listed : state.timers[n]? = some block) (found : findNextBlockInfo block = .ok nextBlock)
    (inTime : timely → state.InTime (.makeMegaSandwich n)) :
    MegaTask.Sound first timely state.refreshed ⟨nextBlock, state.pendingSandwiches, none⟩ where
  recipes entry there computed member meat holds := by
    obtain ⟨aimed, aims, same, pays⟩ := sound.pending entry there computed member meat holds
    refine ⟨aimed, aims, fun holds => ?_, pays⟩
    rcases inTime holds block listed with current | empty
    · rw [same holds, findNextBlockInfo_number found, current]
    · exact absurd (empty ▸ there) List.not_mem_nil
  fresh := .inr ⟨block, sound.timers block (List.mem_of_getElem? listed), found⟩
  profits _ none := nomatch none

/-- A recipe for one pool is filed. -/
theorem Bot.Sound.addRecipe (sound : state.Sound config start first timely) {task : PoolTask}
    {recipe : OptimalRecipe} {n : ℕ} (listed : state.tasks[n]? = some task)
    (computed : task.optimalSandwich = some recipe) (inTime : timely → state.InTime (.addRecipe n)) :
    Bot.Sound config start first timely { state with
      tasks := state.tasks.eraseIdx n
      pendingSandwiches := Runner.addRecipe ⟨recipe, task.blockOracle⟩ task.pool state.pendingSandwiches
      sending := state.sending ++ [⟨task.victimTx, recipe, task.blockOracle.nextBlock⟩] } := by
  have known := sound.tasks _ (List.mem_of_getElem? listed)
  obtain ⟨positive, single⟩ := known.single recipe computed
  have pay : ∀ meat ∈ recipe.meats, PaysFor first timely state.refreshed (state.current + 1) meat := by
    intro meat there
    rw [single] at there
    exact ⟨_, known.fresh, fun holds => inTime holds task listed,
      List.mem_singleton.mp there ▸ known.pays⟩
  refine { sound with
    tasks := fun other there => sound.tasks other (List.mem_of_mem_eraseIdx there)
    pending := sound.pending.addRecipe task.pool pay
    sending := fun other there => ?_ }
  rcases List.mem_append.mp there with earlier | new
  · exact sound.sending other earlier
  · obtain rfl := List.mem_singleton.mp new
    exact ⟨known.pays, known.fresh, positive, single⟩

/-- Every step keeps what is known about the bot. -/
theorem sound_step (sound : state.Sound config start first timely) {event : BotEvent}
    (inTime : timely → state.InTime event) (taken : state.next config event = some after) :
    after.Sound config start first timely := by
  cases Bot.steps_of_next taken with
  | newBlock phase => exact { sound with phase := forall_of_none }
  | updateSearcherNonce phase => exact sound.refresh _ _
  | clear phase free =>
    exact { sound with
      pending := fun _ there => absurd there List.not_mem_nil
      phase := fun other same => sound.phase other (by rw [phase]; exact same) }
  | update phase updated => exact sound.update phase updated
  | startTimer phase =>
    have fetched := sound.phase _ (by rw [phase]; rfl)
    refine { sound with phase := forall_of_none, timers := fun other there => ?_ }
    rcases List.mem_append.mp there with earlier | new
    · exact sound.timers other earlier
    · exact List.mem_singleton.mp new ▸ fetched
  | insertPool => exact { sound with }
  | ignoreVictim => exact sound
  | victim pays =>
    refine { sound with victim := ?_ }
    rintro _ _ ⟨⟩
    exact ⟨pays, sound.oracle⟩
  | loseVictim => exact { sound with victim := fun _ _ none => nomatch none }
  | @look _ _ sender _ sandwichBalance _ sandwichablePools seen traced extracts =>
    have started := sound.look seen sender sandwichBalance
      ((sandwichablePools.filter (·.isWethInput)).map (·.pool))
    rw [List.map_map] at started
    exact started
  | simulate listed found =>
    have known := sound.tasks _ (List.mem_of_getElem? listed)
    refine { sound with tasks := fun other there => ?_ }
    rcases List.mem_or_eq_of_mem_set there with earlier | rfl
    · exact sound.tasks other earlier
    · refine ⟨known.pays, known.fresh, ?_⟩
      rintro _ ⟨⟩
      exact single_meats found
  | dropTask =>
    exact { sound with tasks := fun other there => sound.tasks other (List.mem_of_mem_eraseIdx there) }
  | addRecipe listed computed => exact sound.addRecipe listed computed inTime
  | @sendBundle _ _ task listed =>
    obtain ⟨pays, fresh, positive, single⟩ := sound.sending _ (List.mem_of_getElem? listed)
    have profits : Profits (PaysFor first timely state.refreshed task.nextBlock.number)
        task.optimalSandwich := by
      refine ⟨positive, single ▸ List.cons_ne_nil _ _, fun meat there => ?_⟩
      rw [single] at there
      exact ⟨task.nextBlock, fresh, fun _ => rfl, List.mem_singleton.mp there ▸ pays⟩
    refine { sound with
      sending := fun other there => sound.sending other (List.mem_of_mem_eraseIdx there)
      sent := right_of_send sound ?_ profits fresh }
    rintro _ ⟨⟩
    exact ⟨single, pays⟩
  | makeMegaSandwich listed found =>
    refine { sound with
      timers := fun other there => sound.timers other (List.mem_of_mem_eraseIdx there), mega := ?_ }
    rintro _ ⟨⟩
    exact sound.makeMega listed found inTime
  | simulateMega running found =>
    refine { sound with mega := ?_ }
    rintro _ ⟨⟩
    exact (sound.mega _ running).simulated found
  | dropMega => exact { sound with mega := forall_of_none }
  | sendMega running computed =>
    have known := sound.mega _ running
    exact { sound with
      mega := forall_of_none
      sent := right_of_send sound forall_of_none (known.profits _ computed) known.fresh }

end Sound

/-! ### Whole runs -/

/-- Every bundle of a run is right, for runs of any kind and for timely ones. -/
theorem run_right {config : Config} {nonce : Word} {blockOracle : BlockOracle} {allPools : AllPools}
    {wethBalance : Word} {steps : List (Bot × BotEvent)} {last : Bot} (timely : Prop)
    (run : BotRun config (.new nonce blockOracle allPools wethBalance) steps last)
    (inTime : Meets (fun state event => timely → state.InTime event) steps) :
    ∀ sent ∈ last.sent, sent.Right config nonce blockOracle.nextBlock timely := by
  have sound := run.invariant_of_meets
    (sound_new config nonce blockOracle allPools wethBalance timely)
    (fun _ _ _ sound inTime taken => sound_step sound inTime taken) inTime
  exact sound.1.sent

deriving instance DecidableEq for Block

/-- A half full block at a base fee of 100. -/
def cheapBlock (number : U64) : Block := { halfFull number with baseFeePerGas := some 100 }

/-- A bot behind block 99 that knows two pairs. -/
def cheapBot : Bot := .new 0 ⟨⟨⟨99, 100⟩, 1700000000⟩, ⟨⟨100, 100⟩, 1700000012⟩⟩ twoPairs 0

/-- The hashes of those pairs, and a maker that signs with the nonce. -/
def plainConfig : Config := ⟨plainMaker, pairKeccak⟩

/-- A swap of USDC is seen behind block 100. Its sandwich is simulated, filed and sent, and so is the mega
sandwich of block 101. -/
def timelyEvents : List BotEvent :=
  [.newBlock (cheapBlock 100), .updateSearcherNonce 7, .clear, .update, .startTimer,
    .victim { legacyMeat with maxFeePerGas := some 1000 },
    .look (some 4) (some [⟨some swapDiff⟩]) 1000000000000,
    .simulate 0 lenientSetup.backend fun _ amount => amount, .addRecipe 0, .sendBundle 0 0,
    .makeMegaSandwich 0, .simulateMega lenientSetup.backend fun _ amount => amount, .sendMega 0]

/-- That run, and its two bundles. -/
theorem exists_timely : ∃ steps last, BotRun plainConfig cheapBot steps last
    ∧ Meets Bot.InTime steps
    ∧ last.sent.map (fun sent => (sent.refreshed, sent.targetBlock.number))
      = [([(cheapBlock 100, 7)], 101), ([(cheapBlock 100, 7)], 101)] := by
  have sent : (timelyEvents.foldlM (fun (state : Bot) event =>
        if state.InTime event then state.next plainConfig event else none) cheapBot).map
      (fun last => last.sent.map fun sent => (sent.refreshed, sent.targetBlock.number))
      = some [([(cheapBlock 100, 7)], 101), ([(cheapBlock 100, 7)], 101)] := by decide +kernel
  obtain ⟨last, taken, bundles⟩ := Option.map_eq_some_iff.mp sent
  obtain ⟨steps, run, inTime⟩ :=
    Run.exists_of_checked (Bot.next plainConfig) Bot.InTime cheapBot last timelyEvents taken
  exact ⟨steps, last, run, inTime, bundles⟩

/-- Two blocks of one number that the bot aims at are one block. -/
def NoReorganisation (first : TargetBlock) (refreshed : List (Block × Word)) : Prop :=
  ∀ one other, Aims first refreshed one → Aims first refreshed other →
    one.number = other.number → one = other

/-- In a timely run without reorganisations every victim of every bundle, of a mega sandwich too, can be
included in the block that the bundle is for. -/
theorem victims_pay (config : Config) (nonce : Word) (blockOracle : BlockOracle) (allPools : AllPools)
    (wethBalance : Word) (steps : List (Bot × BotEvent)) (last : Bot)
    (run : BotRun config (.new nonce blockOracle allPools wethBalance) steps last)
    (inTime : Meets Bot.InTime steps) (sent : Sent) (there : sent ∈ last.sent)
    (noReorganisation : NoReorganisation blockOracle.nextBlock sent.refreshed) :
    ∀ meat ∈ sent.optimalSandwich.meats, Pays sent.targetBlock meat := by
  have right := run_right True run (fun taken mem _ => inTime taken mem) sent there
  intro meat holds
  obtain ⟨aimed, aims, same, pays⟩ := right.meats.good meat holds
  rwa [noReorganisation aimed sent.targetBlock aims right.fresh (same trivial)] at pays

theorem victims_pay_timely : ∃ last : Bot, last.sent.length = 2 ∧ ∀ sent ∈ last.sent,
    ∀ meat ∈ sent.optimalSandwich.meats, Pays sent.targetBlock meat := by
  obtain ⟨steps, last, run, inTime, bundles⟩ := exists_timely
  refine ⟨last, by simpa using congrArg List.length bundles, fun sent there => ?_⟩
  refine victims_pay plainConfig 0 _ twoPairs 0 steps last run inTime sent there ?_
  have refreshed : sent.refreshed = [(cheapBlock 100, 7)] := by
    have listed := List.mem_map_of_mem
      (f := fun sent : Sent => (sent.refreshed, sent.targetBlock.number)) there
    rw [bundles] at listed
    rcases List.mem_cons.mp listed with same | listed
    · exact (Prod.mk.inj same).1
    · exact (Prod.mk.inj (List.mem_singleton.mp listed)).1
  rw [refreshed]
  have behind {nextBlock : TargetBlock} (found : ∃ block ∈ [(cheapBlock 100, (7 : Word))].map Prod.fst,
      findNextBlockInfo block = .ok nextBlock) : findNextBlockInfo (cheapBlock 100) = .ok nextBlock := by
    obtain ⟨block, here, found⟩ := found
    rwa [List.mem_singleton.mp here] at found
  rintro one other (rfl | one) (rfl | other) same
  · rfl
  · have number := findNextBlockInfo_number (behind other)
    rw [← same] at number
    exact absurd number (by decide)
  · have number := findNextBlockInfo_number (behind one)
    rw [same] at number
    exact absurd number (by decide)
  · exact Except.ok.inj ((behind one).symm.trans (behind other))

end Sando.Runner
