/-
The pools that a bot sandwiches.

A victim is baited into a pool by what its trace shows: the pool was known, and the WETH balance of the
pool rises, so the victim buys there with WETH. Every bundle of a bot, also a mega sandwich, has only
target pools that some victim was seen to buy from, and each of its victims was seen to buy from one of
its target pools (`targets_baited`), whatever the EVM answers and however the loops interleave. Of a pool
only the dust may have been forgotten on the way.
-/

import Sando.Runner.Bundles

namespace Sando.Runner

open Std Sando.Evm Sando.TxBuilder Sando.Simulate Sando.Program Sando.StateDiff

/-! ### What a trace shows -/

section Extract

variable {keccak256 : List Byte → Word} {weth : TreeMap Word (Diff Word)} {stateDiffs : StateDiffs}
  {allPools : Address → Option TargetPool}

/-- The directions that are found are those of changed balances. -/
theorem mem_findDirections {pools : List TargetPool} : ∀ {earlier result : List SandwichablePool},
    findDirections keccak256 weth pools earlier = some result → ∀ found ∈ result,
      found ∈ earlier ∨ found.pool ∈ pools ∧ ∃ before after,
        weth[storageKey keccak256 found.pool]? = some (.changed before after)
        ∧ found.isWethInput = decide (before < after) := by
  induction pools with
  | nil =>
    intro earlier result finds found there
    cases Option.some.inj finds
    exact .inl there
  | cons pool rest ih =>
    intro earlier result finds found there
    obtain ⟨diff, slot, finds⟩ := Option.bind_eq_some_iff.mp finds
    have later : ∀ {earlier}, findDirections keccak256 weth rest earlier = some result →
        found ∈ earlier ∨ found.pool ∈ pool :: rest ∧ ∃ before after,
          weth[storageKey keccak256 found.pool]? = some (.changed before after)
          ∧ found.isWethInput = decide (before < after) := fun finds =>
      (ih finds found there).imp_right fun ⟨listed, changes⟩ => ⟨.tail _ listed, changes⟩
    cases diff with
    | changed before after =>
      rcases later finds with known | new
      · rcases List.mem_append.mp known with known | here
        · exact .inl known
        · obtain rfl := List.mem_singleton.mp here
          exact .inr ⟨List.mem_cons_self, before, after, slot, rfl⟩
      · exact .inr new
    | same | born | died => exact later finds

/-- A pool that is extracted is known and touched, and its WETH balance changes. -/
theorem mem_extractPools {pools : List SandwichablePool}
    (extracts : extractPools keccak256 stateDiffs allPools = some pools) {found : SandwichablePool}
    (there : found ∈ pools) :
    (∃ address ∈ stateDiffs, allPools address = some found.pool)
      ∧ ∃ weth before after, stateDiffs[getWethAddress]? = some weth
        ∧ weth.storage[storageKey keccak256 found.pool]? = some (.changed before after)
        ∧ found.isWethInput = decide (before < after) := by
  obtain ⟨weth, known, finds⟩ := Option.bind_eq_some_iff.mp extracts
  rcases mem_findDirections finds found there with none | ⟨listed, before, after, slot, direction⟩
  · exact absurd none List.not_mem_nil
  · obtain ⟨address, touched, held⟩ := List.mem_filterMap.mp listed
    exact ⟨⟨address, TreeMap.mem_keys.mp touched, held⟩, weth, before, after, known, slot, direction⟩

end Extract

/-- A pool, whatever its dust. -/
def plain (pool : TargetPool) : TargetPool := { pool with hasDust := false }

/-- A step looks at a victim and sees it buy from a pool with WETH. -/
def Baited (config : Config) (taken : Bot × BotEvent) (pool : TargetPool) (victimTx : Meat) : Prop :=
  ∃ sender answer sandwichBalance recovered blockOracle stateDiffs weth before after,
    taken.2 = .look (some sender) answer sandwichBalance
    ∧ taken.1.victim = some (recovered, blockOracle)
    ∧ victimTx = { recovered with fromAddress := sender }
    ∧ getFromTxs answer = some stateDiffs
    -- the pool is known and touched
    ∧ (∃ address ∈ stateDiffs, ∃ held, taken.1.allPools address = some held ∧ plain held = plain pool)
    -- its WETH balance rises
    ∧ stateDiffs[getWethAddress]? = some weth
    ∧ weth.storage[storageKey config.keccak256 pool]? = some (.changed before after) ∧ before < after

/-! ### The pools of a recipe -/

/-- Every target pool has a victim, and every meat is a victim of a target pool. -/
structure Covers (baits : TargetPool → Meat → Prop) (recipe : OptimalRecipe) : Prop where
  pools : ∀ pool ∈ recipe.targetPools, ∃ victimTx, baits (plain pool) victimTx
  meats : ∀ meat ∈ recipe.meats, ∃ pool ∈ recipe.targetPools, baits (plain pool) meat

section Recipes

variable {setup : Setup}

/-- A frontrun segment changes nothing but the dust of its pool. -/
theorem frontrunSegment_plain (isMultiple : Bool) (index : ℕ) (frontrunIn : Word)
    (ingredients : RawIngredients) (frontruns : Frontruns) : Triple (fun _ => True)
      (setup.frontrunSegment isMultiple index frontrunIn ingredients frontruns)
      (fun after _ => after.ingredients.map (fun kept => plain kept.targetPool)
        = frontruns.ingredients.map (fun kept => plain kept.targetPool)
          ++ [plain ingredients.targetPool]) fun _ _ => True := by
  have anything {α : Type} {program : Simulation α} :
      Triple (fun _ => True) program (fun _ _ => True) fun _ _ => True := triple_trivial trivial
  refine triple_bind _ anything fun _ => triple_bind _ anything fun balance => ?_
  refine triple_bind _ anything fun amountOut => triple_bind _ anything fun frontrunOut => ?_
  refine triple_bind _ anything fun _ => triple_bind _ anything fun segment => ?_
  refine triple_bind _ anything fun bundle => triple_pure fun _ _ => ?_
  rw [List.map_append]
  rfl

theorem frontrunLoop_plain (isMultiple : Bool) (frontrunIns : List Word)
    (multiIngredients : List RawIngredients) : ∀ (index : ℕ) (frontruns : Frontruns),
    Triple (fun _ => True) (setup.frontrunLoop isMultiple frontrunIns index multiIngredients frontruns)
      (fun after _ => after.ingredients.map (fun kept => plain kept.targetPool)
        = frontruns.ingredients.map (fun kept => plain kept.targetPool)
          ++ multiIngredients.map (fun kept => plain kept.targetPool)) fun _ _ => True := by
  induction multiIngredients with
  | nil => exact fun _ frontruns => triple_pure fun _ _ => (List.append_nil _).symm
  | cons ingredients rest ih =>
    intro index frontruns
    refine triple_bind (fun _ _ => True) (keeps_ofOption _ _) fun amount => triple_ite (fun _ => ?_)
      fun _ => ?_
    · refine (ih _ _).weaken (fun _ holds => holds) (fun after _ same => ?_) fun _ _ holds => holds
      rwa [List.map_append, List.append_assoc] at same
    · refine triple_bind _ (frontrunSegment_plain isMultiple index _ ingredients frontruns)
        fun next state same => ?_
      refine ((ih (index + 1) next).weaken (fun _ holds => holds) (fun after _ later => ?_)
        fun _ _ holds => holds) state trivial
      rw [later, same, List.append_assoc]
      rfl

/-- A recipe has the pools of its ingredients. -/
theorem sanityCheck_plain (sandwichStartBalance : Word) (frontrunIns : List Word)
    (multiIngredients : List RawIngredients) : Triple (fun _ => True)
      (setup.sanityCheck sandwichStartBalance frontrunIns multiIngredients)
      (fun recipe _ => recipe.targetPools.map plain
        = multiIngredients.map (fun kept => plain kept.targetPool)) fun _ _ => True := by
  have anything {α : Type} {fact : Prop} {program : Simulation α} (holds : fact) :
      Triple (fun _ => fact) program (fun _ _ => fact) fun _ _ => True := triple_trivial holds
  refine triple_bind _ (frontrunLoop_plain _ _ _ _ _) fun frontruns => triple_assume fun state same => ?_
  have kept : frontruns.ingredients.map (fun kept => plain kept.targetPool)
      = multiIngredients.map (fun kept => plain kept.targetPool) := same
  refine triple_bind (fun _ _ => True) (triple_trivial trivial) fun frontrun => ?_
  refine triple_bind _ (anything trivial) fun goodMeats => triple_ite (fun _ => ?_) fun _ => ?_
  · exact triple_bind (fun _ _ => False) (triple_throw fun _ _ => trivial) fun _ _ => False.elim
  · refine triple_bind _ (anything trivial) fun backrun => triple_bind _ (anything trivial) fun sent => ?_
    refine triple_bind _ (anything trivial) fun balance => triple_pure fun _ _ => ?_
    rw [List.map_map]
    exact kept

variable {config : Config} {backend : Backend} {revenue : RawIngredients → ℕ → ℕ}
  {nextBlock : TargetBlock} {balance : Word} {multiIngredients : List RawIngredients}
  {recipe : OptimalRecipe} {baits : TargetPool → Meat → Prop}

/-- A recipe covers what its ingredients do. -/
theorem covers_of_found (found : config.createOptimalSandwich backend revenue nextBlock balance
      multiIngredients = some recipe)
    (pools : ∀ ingredients ∈ multiIngredients, ∃ victimTx, baits (plain ingredients.targetPool) victimTx)
    (meats : ∀ ingredients ∈ multiIngredients, ∀ meat ∈ ingredients.meats,
      baits (plain ingredients.targetPool) meat) : Covers baits recipe := by
  obtain ⟨-, kept, frontrunIns, final, sublist, run⟩ := createOptimalSandwich_eq_some found
  obtain ⟨names, sorted⟩ := (sanityCheck_executed _ _ _).of_ok
    (show Executed _ [] .initial from rfl) run
  have same := (sanityCheck_plain _ _ _).of_ok trivial run
  constructor
  · intro pool there
    have listed : plain pool ∈ kept.map fun kept => plain kept.targetPool :=
      same ▸ List.mem_map_of_mem there
    obtain ⟨ingredients, member, equal⟩ := List.mem_map.mp listed
    exact equal ▸ pools ingredients (sublist.subset member)
  · intro meat there
    rw [sorted] at there
    have executed : meat ∈ kept.flatMap (·.meats) := by
      rw [← names]
      exact (List.filter_sublist.map _).subset (mem_sortMeats there)
    obtain ⟨ingredients, member, holds⟩ := List.mem_flatMap.mp executed
    have listed : plain ingredients.targetPool ∈ recipe.targetPools.map plain :=
      same ▸ List.mem_map_of_mem member
    obtain ⟨pool, target, equal⟩ := List.mem_map.mp listed
    exact ⟨pool, target, equal ▸ meats ingredients (sublist.subset member) meat holds⟩

end Recipes

/-! ### The pools of a bot -/

/-- The recipes of a pool are filed under a pool with a victim, and have its victims. -/
def Files (baits : TargetPool → Meat → Prop) (pending : PendingSandwiches (Computed OptimalRecipe)) :
    Prop :=
  ∀ entry ∈ pending, (∃ victimTx, baits (plain entry.1) victimTx)
    ∧ ∀ computed ∈ entry.2, ∀ meat ∈ computed.recipe.meats, baits (plain entry.1) meat

/-- Everything that a bot holds is about pools with victims. -/
structure Bot.Targets (baits : TargetPool → Meat → Prop) (state : Bot) : Prop where
  tasks : ∀ task ∈ state.tasks, baits (plain task.pool) task.victimTx
    ∧ ∀ recipe, task.optimalSandwich = some recipe →
      Covers baits recipe ∧ ∀ meat ∈ recipe.meats, meat = task.victimTx
  sending : ∀ task ∈ state.sending, Covers baits task.optimalSandwich
  pending : Files baits state.pendingSandwiches
  mega : ∀ task, state.mega = some task → Files baits task.recipes
    ∧ ∀ recipe, task.optimalSandwich = some recipe → Covers baits recipe
  sent : ∀ sent ∈ state.sent, Covers baits sent.optimalSandwich

section Targets

variable {config : Config} {baits more : TargetPool → Meat → Prop} {state after : Bot}

theorem Covers.weaken {recipe : OptimalRecipe} (covers : Covers baits recipe)
    (weak : ∀ pool meat, baits pool meat → more pool meat) : Covers more recipe where
  pools pool there := (covers.pools pool there).imp (weak _)
  meats meat there := (covers.meats meat there).imp fun _ ⟨listed, holds⟩ => ⟨listed, weak _ _ holds⟩

theorem Files.weaken {pending : PendingSandwiches (Computed OptimalRecipe)} (files : Files baits pending)
    (weak : ∀ pool meat, baits pool meat → more pool meat) : Files more pending :=
  fun entry there => ⟨(files entry there).1.imp (weak _), fun computed listed meat holds =>
    weak _ _ ((files entry there).2 computed listed meat holds)⟩

theorem Bot.Targets.weaken (targets : state.Targets baits)
    (weak : ∀ pool meat, baits pool meat → more pool meat) : state.Targets more where
  tasks task there := ⟨weak _ _ (targets.tasks task there).1, fun recipe computed =>
    ((targets.tasks task there).2 recipe computed).imp_left fun covers => covers.weaken weak⟩
  sending task there := (targets.sending task there).weaken weak
  pending := targets.pending.weaken weak
  mega task running := ⟨(targets.mega task running).1.weaken weak, fun recipe computed =>
    ((targets.mega task running).2 recipe computed).weaken weak⟩
  sent sent there := (targets.sent sent there).weaken weak

/-- A recipe for a pool with its victim is filed under it. -/
theorem Files.addRecipe {pending : PendingSandwiches (Computed OptimalRecipe)} (files : Files baits pending)
    {computed : Computed OptimalRecipe} {pool : TargetPool} {victimTx : Meat}
    (baited : baits (plain pool) victimTx)
    (single : ∀ meat ∈ computed.recipe.meats, meat = victimTx) :
    Files baits (addRecipe computed pool pending) := by
  intro entry there
  rcases mem_addRecipe there with known | ⟨same, all⟩
  · exact files entry known
  · rw [same]
    refine ⟨⟨victimTx, baited⟩, fun filed listed meat holds => ?_⟩
    rcases all filed listed with rfl | ⟨earlier, known, listed⟩
    · exact single meat holds ▸ baited
    · exact (files _ known).2 filed listed meat holds

/-- The ingredients of a mega sandwich are about the pools of its recipes. -/
theorem Files.ingredients {task : MegaTask} (files : Files baits task.recipes) :
    ∀ ingredients ∈ task.ingredients, (∃ victimTx, baits (plain ingredients.targetPool) victimTx)
      ∧ ∀ meat ∈ ingredients.meats, baits (plain ingredients.targetPool) meat := by
  intro ingredients made
  obtain ⟨entry, listed, same, meats⟩ := MegaTask.mem_ingredients made
  rw [same]
  refine ⟨(files entry listed).1, fun meat there => ?_⟩
  obtain ⟨computed, member, holds⟩ := meats meat there
  exact (files entry listed).2 computed member meat holds

theorem Bot.Targets.send (targets : state.Targets baits) {victimTx : Option Meat}
    {recipe : OptimalRecipe} {targetBlock : TargetBlock} {random : ℕ} (covers : Covers baits recipe) :
    ∀ sent ∈ state.sent ++ config.send victimTx recipe targetBlock random state,
      Covers baits sent.optimalSandwich := by
  intro sent there
  rcases List.mem_append.mp there with earlier | new
  · exact targets.sent sent earlier
  · unfold Config.send at new
    split at new
    · obtain rfl := List.mem_singleton.mp new
      exact covers
    · exact absurd new List.not_mem_nil

/-- The pools that a step finds are those with a victim. -/
theorem Bot.Targets.step (targets : state.Targets baits) {event : BotEvent}
    (looks : ∀ pool victimTx, Baited config (state, event) pool victimTx → baits pool victimTx)
    (taken : state.next config event = some after) : after.Targets baits := by
  cases Bot.steps_of_next taken with
  | newBlock _ | updateSearcherNonce _ | update _ _ | startTimer _ | insertPool | ignoreVictim | victim _
  | loseVictim =>
    exact { targets with }
  | clear _ _ => exact { targets with pending := fun _ there => absurd there List.not_mem_nil }
  | @look recovered blockOracle sender answer sandwichBalance stateDiffs found seen traced extracts =>
    refine { targets with tasks := fun task there => ?_ }
    rcases List.mem_append.mp there with earlier | new
    · exact targets.tasks task earlier
    · obtain ⟨pool, listed, rfl⟩ := List.mem_map.mp new
      obtain ⟨there, isWethInput⟩ := List.mem_filter.mp listed
      obtain ⟨⟨address, touched, held⟩, weth, before, after, known, slot, direction⟩ :=
        mem_extractPools extracts there
      refine ⟨looks _ _ ⟨sender, answer, sandwichBalance, recovered, blockOracle, stateDiffs, weth,
        before, after, rfl, seen, rfl, traced, ⟨address, touched, pool.pool, held, rfl⟩, known, slot, ?_⟩,
        forall_of_none⟩
      exact of_decide_eq_true (direction.symm.trans isWethInput)
  | @simulate _ _ _ task recipe listed found =>
    obtain ⟨baited, -⟩ := targets.tasks _ (List.mem_of_getElem? listed)
    refine { targets with tasks := fun other there => ?_ }
    rcases List.mem_or_eq_of_mem_set there with earlier | rfl
    · exact targets.tasks other earlier
    · refine ⟨baited, ?_⟩
      rintro _ ⟨⟩
      refine ⟨covers_of_found found ?_ ?_, fun meat there => ?_⟩
      · simpa using ⟨task.victimTx, baited⟩
      · simpa using baited
      · rw [(single_meats found).2] at there
        exact List.mem_singleton.mp there
  | dropTask =>
    exact { targets with
      tasks := fun other there => targets.tasks other (List.mem_of_mem_eraseIdx there) }
  | addRecipe listed computed =>
    obtain ⟨baited, known⟩ := targets.tasks _ (List.mem_of_getElem? listed)
    obtain ⟨covers, single⟩ := known _ computed
    refine { targets with
      tasks := fun other there => targets.tasks other (List.mem_of_mem_eraseIdx there)
      pending := targets.pending.addRecipe baited single
      sending := fun other there => ?_ }
    rcases List.mem_append.mp there with earlier | new
    · exact targets.sending other earlier
    · obtain rfl := List.mem_singleton.mp new
      exact covers
  | sendBundle listed =>
    exact { targets with
      sending := fun other there => targets.sending other (List.mem_of_mem_eraseIdx there)
      sent := targets.send (targets.sending _ (List.mem_of_getElem? listed)) }
  | makeMegaSandwich _ _ =>
    refine { targets with mega := ?_ }
    rintro _ ⟨⟩
    exact ⟨targets.pending, forall_of_none⟩
  | simulateMega running found =>
    obtain ⟨files, -⟩ := targets.mega _ running
    refine { targets with mega := ?_ }
    rintro _ ⟨⟩
    refine ⟨files, ?_⟩
    rintro _ ⟨⟩
    exact covers_of_found found (fun ingredients made => (files.ingredients ingredients made).1)
      fun ingredients made => (files.ingredients ingredients made).2
  | dropMega => exact { targets with mega := forall_of_none }
  | sendMega running computed =>
    exact { targets with
      mega := forall_of_none
      sent := targets.send ((targets.mega _ running).2 _ computed) }

end Targets

/-- Whatever a bot holds, its victims were seen in the steps so far. -/
theorem targets_of_run {config : Config} {nonce : Word} {blockOracle : BlockOracle} {allPools : AllPools}
    {wethBalance : Word} {steps : List (Bot × BotEvent)} {last : Bot}
    (run : BotRun config (.new nonce blockOracle allPools wethBalance) steps last) :
    last.Targets fun pool victimTx => ∃ taken ∈ steps, Baited config taken pool victimTx := by
  induction run with
  | nil =>
    exact ⟨fun _ there => absurd there List.not_mem_nil, fun _ there => absurd there List.not_mem_nil,
      fun _ there => absurd there List.not_mem_nil, forall_of_none,
      fun _ there => absurd there List.not_mem_nil⟩
  | snoc run taken ih =>
    refine (ih.weaken fun pool victimTx seen => ?_).step (fun pool victimTx baited => ?_) taken
    · obtain ⟨earlier, there, baited⟩ := seen
      exact ⟨earlier, List.mem_append_left _ there, baited⟩
    · exact ⟨_, List.mem_append_right _ List.mem_cons_self, baited⟩

/-- Every bundle of a run has only target pools that a victim was seen to buy from, and each of its victims
was seen to buy from one of them. -/
theorem targets_baited (config : Config) (nonce : Word) (blockOracle : BlockOracle) (allPools : AllPools)
    (wethBalance : Word) (steps : List (Bot × BotEvent)) (last : Bot)
    (run : BotRun config (.new nonce blockOracle allPools wethBalance) steps last) :
    ∀ sent ∈ last.sent, Covers (fun pool victimTx => ∃ taken ∈ steps, Baited config taken pool victimTx)
      sent.optimalSandwich :=
  (targets_of_run run).sent

theorem targets_baited_timely : ∃ steps last, BotRun plainConfig cheapBot steps last
    ∧ last.sent.length = 2 ∧ ∀ sent ∈ last.sent,
      Covers (fun pool victimTx => ∃ taken ∈ steps, Baited plainConfig taken pool victimTx)
        sent.optimalSandwich := by
  obtain ⟨steps, last, run, -, bundles⟩ := exists_timely
  refine ⟨steps, last, run, ?_, targets_baited plainConfig 0 _ twoPairs 0 steps last run⟩
  simpa using congrArg List.length bundles

end Sando.Runner
