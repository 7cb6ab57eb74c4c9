/-
Collecting recipes and sending bundles.

`addRecipe` files a recipe under its pool; `megaIngredients` is what a mega sandwich is simulated with,
the recipes of each pool by revenue. `sendBundle` signs the two slices and puts the meats of the recipe
between them. Signing, the RLP encoding of a meat and the random part of the bribe are parameters, and a
result that does not fit its type is a panic.
-/

import Sando.Simulate.Meats

namespace Sando.Runner

open Sando.Evm Sando.TxBuilder Sando.Simulate

/-! ### Pending sandwiches -/

deriving instance DecidableEq for Pool

deriving instance DecidableEq for TargetPool

/-- The recipes of each pool, in some order of the pools. -/
abbrev PendingSandwiches (Recipe : Type) := List (TargetPool × List Recipe)

/-- Add a recipe to the pending transaction list for a given pool. -/
def addRecipe {Recipe : Type} (recipe : Recipe) (pool : TargetPool) :
    PendingSandwiches Recipe → PendingSandwiches Recipe
  | [] => [(pool, [recipe])]
  | (other, recipes) :: rest =>
    if other = pool then (other, recipes ++ [recipe]) :: rest
    else (other, recipes) :: addRecipe recipe pool rest

/-- The ingredients of a pool, with the start token first. -/
def rawIngredients (targetPair : TargetPool) (victimTxs : List Meat) (startToken : Address) :
    RawIngredients :=
  -- swap if input_token is equal to token_1
  if startToken = targetPair.token1 then
    ⟨targetPair.token1, targetPair.token0, victimTxs, targetPair⟩
  else
    ⟨targetPair.token0, targetPair.token1, victimTxs, targetPair⟩

/-- What a mega sandwich is made of. -/
def megaIngredients (pending : PendingSandwiches OptimalRecipe) : List RawIngredients :=
  pending.map fun (targetPool, recipes) =>
    -- sort recipes by revenue
    let recipes := recipes.insertionSort fun first second => first.revenue ≤ second.revenue
    rawIngredients targetPool (recipes.flatMap (·.meats)) getWethAddress

/-! ### Sending -/

inductive SendBundleError
  | signingError | frontrunGasFeesNotCovered | maxFeeLessThanNextBaseFee | negativeMinerTip
  deriving DecidableEq

/-- How sending stops. -/
inductive Stop
  | error (error : SendBundleError)
  | panic
  deriving DecidableEq

/-- The target block, with its timestamp. -/
structure TargetBlock extends BlockInfo where
  timestamp : Word

structure Eip1559TransactionRequest where
  toAddress : Address
  fromAddress : Address
  data : List Byte
  chainId : U64
  maxPriorityFeePerGas : Word
  maxFeePerGas : Word
  gas : Word
  nonce : Word
  value : Word
  accessList : AccessList

structure BundleRequest where
  transactions : List (List Byte)
  block : U64
  simulationBlock : U64
  simulationTimestamp : U64
  minTimestamp : U64
  maxTimestamp : U64

/-- What signs and encodes. -/
structure SandwichMaker where
  sandwichAddress : Address
  searcherWallet : Address
  nonce : Word
  signEip1559 : Eip1559TransactionRequest → Option (List Byte)
  rlp : Meat → List Byte

/-- A result that is missing is a panic. -/
def orPanic {α : Type} : Option α → Except Stop α
  | some value => pure value
  | none => throw .panic

/-- A 256-bit result. -/
def fits (value : ℕ) : Except Stop Word := orPanic (checkedWord value)

/-- Extra revenue for every pool without dust. -/
def addDust (baseFee : Word) : List TargetPool → Word → Except Stop Word
  | [], revenue => pure revenue
  | pool :: pools, revenue => do
    if pool.hasDust then addDust baseFee pools revenue
    else
      let dust ← fits (baseFee.toNat * 11000)
      let revenue ← fits (revenue.toNat + dust.toNat)
      addDust baseFee pools revenue

/-- Calculates the optimal bribe for a given opportunity; `random` is below ten million. -/
def calculateBribeForMaxFee (recipe : OptimalRecipe) (targetBlock : TargetBlock) (random : ℕ) :
    Except Stop Word := do
  -- frontrun txfee is fixed, exclude it from bribe calculations
  let fee ← fits (recipe.frontrunGasUsed * targetBlock.baseFee.toNat)
  let revenueMinusFrontrunTxFee ← match checkedSub recipe.revenue fee with
    | some revenue => pure revenue
    | none => throw (.error .frontrunGasFeesNotCovered)
  -- overpay to get dust onto sandwich contract
  let revenueMinusFrontrunTxFee ←
    addDust targetBlock.baseFee recipe.targetPools revenueMinusFrontrunTxFee
  let share ← fits (revenueMinusFrontrunTxFee.toNat * (990000000 + random))
  let bribeAmount := share.toNat / 1000000000
  if recipe.backrunGasUsed = 0 then throw .panic
  let maxFee := BitVec.ofNat 256 (bribeAmount / recipe.backrunGasUsed)
  if maxFee < targetBlock.baseFee then throw (.error .maxFeeLessThanNextBaseFee)
  if (checkedSub maxFee targetBlock.baseFee).isNone then throw (.error .negativeMinerTip)
  pure maxFee

/-- The bundle of some signed transactions. -/
def constructBundle (signedTxs : List (List Byte)) (targetBlock targetTimestamp : U64) :
    Except Stop BundleRequest := do
  if targetBlock = 0 then throw .panic
  pure {
    transactions := signedTxs
    block := targetBlock
    simulationBlock := targetBlock - 1
    simulationTimestamp := targetTimestamp
    minTimestamp := targetTimestamp
    maxTimestamp := targetTimestamp }

/-- Sign a request. -/
def SandwichMaker.sign (maker : SandwichMaker) (request : Eip1559TransactionRequest) :
    Except Stop (List Byte) :=
  match maker.signEip1559 request with
  | some raw => pure raw
  | none => throw (.error .signingError)

/-- Construct a bundle based on a recipe. -/
def sendBundle (recipe : OptimalRecipe) (targetBlock : TargetBlock) (maker : SandwichMaker)
    (random : ℕ) : Except Stop BundleRequest := do
  let frontGas ← fits (recipe.frontrunGasUsed * 10)
  let rawSignedFrontrunTx ← maker.sign {
    toAddress := maker.sandwichAddress
    fromAddress := maker.searcherWallet
    data := recipe.frontrun.data
    chainId := 1
    maxPriorityFeePerGas := 0
    maxFeePerGas := targetBlock.baseFee
    gas := BitVec.ofNat 256 (frontGas.toNat / 7) -- gasused = 70% gaslimit
    nonce := maker.nonce
    value := recipe.frontrun.value
    accessList := recipe.frontrunAccessList }
  let rawSignedMeatTxs := recipe.meats.map maker.rlp
  let maxFee ← calculateBribeForMaxFee recipe targetBlock random
  let backGas ← fits (recipe.backrunGasUsed * 10)
  let nextNonce ← fits (maker.nonce.toNat + 1)
  let rawSignedBackrunTx ← maker.sign {
    toAddress := maker.sandwichAddress
    fromAddress := maker.searcherWallet
    data := recipe.backrun.data
    chainId := 1
    maxPriorityFeePerGas := maxFee
    maxFeePerGas := maxFee
    gas := BitVec.ofNat 256 (backGas.toNat / 7) -- gasused = 70% gaslimit
    nonce := nextNonce
    value := recipe.backrun.value
    accessList := recipe.backrunAccessList }
  let timestamp ← orPanic (asU64 targetBlock.timestamp)
  constructBundle (rawSignedFrontrunTx :: rawSignedMeatTxs ++ [rawSignedBackrunTx])
    targetBlock.number timestamp

theorem fits_of_lt {value : ℕ} (bounded : value < 2 ^ 256) :
    fits value = .ok (BitVec.ofNat 256 value) := by
  rw [fits, checkedWord_of_lt bounded]
  rfl

theorem fits_eq_ok {value : ℕ} {word : Word} (ok : fits value = .ok word) :
    word.toNat = value ∧ value < 2 ^ 256 := by
  unfold fits at ok
  cases known : checkedWord value with
  | none =>
    rw [known] at ok
    cases ok
  | some found =>
    rw [known] at ok
    cases ok
    exact checkedWord_eq_some known

/-- A sequence that succeeded is two programs that succeeded. -/
theorem except_bind {ε α β : Type} {program : Except ε α} {rest : α → Except ε β} {value : β}
    (run : (program >>= rest) = .ok value) : ∃ first, program = .ok first ∧ rest first = .ok value := by
  cases program with
  | error failure => cases run
  | ok first => exact ⟨first, rfl, run⟩

theorem constructBundle_transactions {signedTxs : List (List Byte)} {targetBlock targetTimestamp : U64}
    {bundle : BundleRequest} (built : constructBundle signedTxs targetBlock targetTimestamp = .ok bundle) :
    bundle.transactions = signedTxs := by
  unfold constructBundle at built
  by_cases zero : targetBlock = 0
  · rw [if_pos zero] at built
    cases built
  · rw [if_neg zero] at built
    cases built
    rfl

/-- A request was signed. -/
theorem sign_eq_ok {maker : SandwichMaker} {request : Eip1559TransactionRequest} {raw : List Byte}
    (signed : maker.sign request = .ok raw) : maker.signEip1559 request = some raw := by
  unfold SandwichMaker.sign at signed
  cases answer : maker.signEip1559 request with
  | none =>
      rw [answer] at signed
      cases signed
  | some other =>
      rw [answer] at signed
      cases signed
      rfl

/-- A bundle begins with a transaction at the base fee, and ends with one at the fee of the bribe. -/
theorem sendBundle_fees {recipe : OptimalRecipe} {targetBlock : TargetBlock}
    {maker : SandwichMaker} {random : ℕ} {bundle : BundleRequest}
    (sent : sendBundle recipe targetBlock maker random = .ok bundle) :
    ∃ (frontrun backrun : Eip1559TransactionRequest) (rawFrontrun rawBackrun : List Byte),
      frontrun.maxFeePerGas = targetBlock.baseFee ∧ frontrun.maxPriorityFeePerGas = 0
      ∧ calculateBribeForMaxFee recipe targetBlock random = .ok backrun.maxFeePerGas
      ∧ backrun.maxPriorityFeePerGas = backrun.maxFeePerGas
      ∧ maker.signEip1559 frontrun = some rawFrontrun ∧ maker.signEip1559 backrun = some rawBackrun
      ∧ bundle.transactions = rawFrontrun :: recipe.meats.map maker.rlp ++ [rawBackrun] := by
  unfold sendBundle at sent
  obtain ⟨_, _, sent⟩ := except_bind sent
  obtain ⟨rawFrontrun, signedFrontrun, sent⟩ := except_bind sent
  obtain ⟨maxFee, bribe, sent⟩ := except_bind sent
  obtain ⟨_, _, sent⟩ := except_bind sent
  obtain ⟨_, _, sent⟩ := except_bind sent
  obtain ⟨rawBackrun, signedBackrun, sent⟩ := except_bind sent
  obtain ⟨_, _, sent⟩ := except_bind sent
  exact ⟨_, _, rawFrontrun, rawBackrun, rfl, rfl, bribe, rfl, sign_eq_ok signedFrontrun,
    sign_eq_ok signedBackrun, constructBundle_transactions sent⟩

/-- A bundle is the meats of its recipe between two slices. -/
theorem sendBundle_transactions {recipe : OptimalRecipe} {targetBlock : TargetBlock}
    {maker : SandwichMaker} {random : ℕ} {bundle : BundleRequest}
    (sent : sendBundle recipe targetBlock maker random = .ok bundle) : ∃ frontrun backrun,
      bundle.transactions = frontrun :: recipe.meats.map maker.rlp ++ [backrun] := by
  obtain ⟨_, _, frontrun, backrun, -, -, -, -, -, -, transactions⟩ := sendBundle_fees sent
  exact ⟨frontrun, backrun, transactions⟩

/-! ### The simulated sequence -/

/-- The recipe of a simulation, and every bundle that is sent for it, has the transactions that
succeeded, in the order in which they were executed. Each was executed once and is listed once. -/
structure IsSimulated (setup : Setup) (maker : SandwichMaker) (state : State)
    (recipe : OptimalRecipe) : Prop where
  meats : recipe.meats = succeeded (executions setup.backend state.ran)
  executedOnce : ∀ meat ∈ recipe.meats,
    ((executions setup.backend state.ran).map (·.1)).count meat = 1
  listedOnce : recipe.meats.Nodup
  bundle : ∀ targetBlock random bundle, sendBundle recipe targetBlock maker random = .ok bundle →
    ∃ frontrun backrun, bundle.transactions = frontrun
      :: (succeeded (executions setup.backend state.ran)).map maker.rlp ++ [backrun]

/-- Every meat that succeeds is there once, and their hashes increase. The pattern says for each meat
in turn whether it succeeds. -/
def InHashOrder (meats : List Meat) (pattern : List Bool) : Prop :=
  (∀ meat ∈ succeeded (meats.zip pattern), meats.count meat = 1)
    ∧ (succeeded (meats.zip pattern)).Pairwise fun first second => first.hash ≤ second.hash

theorem nodup_succeeded {executed : List (Meat × Bool)}
    (once : ∀ meat ∈ succeeded executed, (executed.map (·.1)).count meat = 1) :
    (succeeded executed).Nodup := by
  rw [List.nodup_iff_count_eq_one]
  intro meat there
  have most : (succeeded executed).count meat ≤ (executed.map (·.1)).count meat :=
    (List.filter_sublist.map _).count_le _
  have least := List.count_pos_iff.mpr there
  rw [once meat there] at most
  omega

/-- The recipe of a run is what was simulated if and only if the meats that succeed are in the order of
their hashes and nowhere repeated. -/
theorem bundle_simulated_iff (setup : Setup) (maker : SandwichMaker) (sandwichStartBalance : Word)
    (frontrunIns : List Word) (multiIngredients : List RawIngredients) {recipe : OptimalRecipe}
    {state : State} (run : setup.sanityCheck sandwichStartBalance frontrunIns multiIngredients .initial
      = .ok recipe state) {pattern : List Bool}
    (outcomes : (executions setup.backend state.ran).map (·.2) = pattern) :
    IsSimulated setup maker state recipe
      ↔ InHashOrder (multiIngredients.flatMap (·.meats)) pattern := by
  obtain ⟨names, sorted⟩ := (sanityCheck_executed sandwichStartBalance frontrunIns
    multiIngredients).of_ok (show Executed setup [] .initial from rfl) run
  subst outcomes
  unfold InHashOrder
  rw [← names, ← List.zip_of_prod rfl rfl]
  constructor
  · intro simulated
    have same : sortMeats (succeeded (executions setup.backend state.ran))
      = succeeded (executions setup.backend state.ran) := sorted.symm.trans simulated.meats
    refine ⟨?_, (sortMeats_eq_self_iff.mp same).1⟩
    rw [← simulated.meats]
    exact simulated.executedOnce
  · rintro ⟨once, increasing⟩
    have distinct := nodup_succeeded once
    have same := sorted.trans (sortMeats_eq_self_iff.mpr ⟨increasing, distinct.isChain⟩)
    refine ⟨same, ?_, ?_, fun targetBlock random bundle sent => ?_⟩
    · rw [same]
      exact once
    · rw [same]
      exact distinct
    · rw [← same]
      exact sendBundle_transactions sent

/-- A maker that signs with the nonce. -/
def plainMaker : SandwichMaker where
  sandwichAddress := 2
  searcherWallet := 1
  nonce := 7
  signEip1559 request := some (bigEndian 32 request.nonce.toNat)
  rlp meat := bigEndian 32 meat.hash.toNat

/-- A meat with a greater hash. -/
def laterMeat : Meat := { legacyMeat with hash := 2 }

/-- What a run executes and lists. -/
theorem exists_run (frontrunIns : List Word) (ingredients : List RawIngredients)
    (executed : List (Meat × Bool)) (meats : List Meat)
    (same : (match lenientSetup.sanityCheck 0 frontrunIns ingredients .initial with
      | .ok recipe state =>
        decide (executions lenientSetup.backend state.ran = executed ∧ recipe.meats = meats)
      | .error _ _ => false) = true) :
    ∃ recipe state, lenientSetup.sanityCheck 0 frontrunIns ingredients .initial = .ok recipe state
      ∧ executions lenientSetup.backend state.ran = executed ∧ recipe.meats = meats := by
  cases run : lenientSetup.sanityCheck 0 frontrunIns ingredients .initial with
  | error _ _ => rw [run] at same; cases same
  | ok recipe state =>
    rw [run] at same
    exact ⟨recipe, state, rfl, of_decide_eq_true same⟩

/-- Two meats in the order of their hashes are sent as they were simulated. -/
theorem bundle_simulated_iff_usdc : ∃ recipe state,
    lenientSetup.sanityCheck 0 [1000000000000000000] [usdcIngredients [legacyMeat, laterMeat]] .initial
        = .ok recipe state
      ∧ recipe.meats = [legacyMeat, laterMeat] ∧ IsSimulated lenientSetup plainMaker state recipe := by
  obtain ⟨recipe, state, run, executed, meats⟩ := exists_run [1000000000000000000]
    [usdcIngredients [legacyMeat, laterMeat]] [(legacyMeat, true), (laterMeat, true)]
    [legacyMeat, laterMeat] (by decide +kernel)
  have outcomes : (executions lenientSetup.backend state.ran).map (·.2) = [true, true] := by
    rw [executed]
    rfl
  exact ⟨recipe, state, run, meats, (bundle_simulated_iff lenientSetup plainMaker _ _ _ run outcomes).mpr
    ⟨by decide, by decide⟩⟩

/-- Two meats of which the first has the greater hash, and one meat of two ingredients. -/
theorem not_simulated_unordered :
    (∃ recipe state, lenientSetup.sanityCheck 0 [1000000000000000000]
        [usdcIngredients [laterMeat, legacyMeat]] .initial = .ok recipe state
      ∧ ¬ IsSimulated lenientSetup plainMaker state recipe)
    ∧ ∃ recipe state, lenientSetup.sanityCheck 0 [1000000000000000000, 1000000000000000000]
        [usdcIngredients [legacyMeat], usdcIngredients [legacyMeat]] .initial = .ok recipe state
      ∧ ¬ IsSimulated lenientSetup plainMaker state recipe := by
  constructor
  · obtain ⟨recipe, state, run, executed, meats⟩ := exists_run [1000000000000000000]
      [usdcIngredients [laterMeat, legacyMeat]] [(laterMeat, true), (legacyMeat, true)]
      [legacyMeat, laterMeat] (by decide +kernel)
    refine ⟨recipe, state, run, fun simulated => ?_⟩
    have same := simulated.meats
    rw [executed, meats] at same
    exact absurd same (by decide)
  · obtain ⟨recipe, state, run, executed, meats⟩ := exists_run
      [1000000000000000000, 1000000000000000000]
      [usdcIngredients [legacyMeat], usdcIngredients [legacyMeat]]
      [(legacyMeat, true), (legacyMeat, true)] [legacyMeat] (by decide +kernel)
    refine ⟨recipe, state, run, fun simulated => ?_⟩
    have once := simulated.executedOnce legacyMeat (by rw [meats]; exact List.mem_singleton_self _)
    rw [executed] at once
    exact absurd once (by decide)

end Sando.Runner
