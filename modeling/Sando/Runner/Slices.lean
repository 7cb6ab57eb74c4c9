/-
The bundles of a bot are what it simulated.

A recipe goes a long way before its bundle is sent, through its task, the pending sandwiches and the
interleaving of all the loops. None the less each of the two requests that are signed is a transaction
that was simulated for the block of the bundle: the same sender, receiver, data and value, gas that
suffices, and the least access list of its run, in which the inspector found nothing
(`bundles_simulated`). The inspectors look at the runs of an EVM that may answer anything.
-/

import Sando.Runner.Bundles
import Sando.Simulate.AccessList
import Sando.Simulate.Sent

namespace Sando.Runner

open Sando.Evm Sando.TxBuilder Sando.Simulate Sando.Program Sando.StateDiff

/-! ### Requests -/

/-- A request for a slice, with enough gas. -/
structure Eip1559TransactionRequest.Carries (maker : SandwichMaker) (slice : Bundle) (gasUsed : ℕ)
    (accessList : AccessList) (request : Eip1559TransactionRequest) : Prop where
  fromAddress : request.fromAddress = maker.searcherWallet
  toAddress : request.toAddress = maker.sandwichAddress
  data : request.data = slice.data
  value : request.value = slice.value
  gas : gasUsed ≤ request.gas.toNat
  accessList : request.accessList = accessList

section Sending

variable {recipe : OptimalRecipe} {targetBlock : TargetBlock} {maker : SandwichMaker} {random : ℕ}

/-- Ten sevenths of the gas used are enough. -/
theorem gas_suffices {gasUsed : ℕ} {gas : Word} (ok : fits (gasUsed * 10) = .ok gas) :
    gasUsed ≤ (BitVec.ofNat 256 (gas.toNat / 7)).toNat := by
  have small : gas.toNat < 2 ^ 256 := gas.isLt
  rw [toNat_ofNat_of_lt (by omega), (fits_eq_ok ok).1]
  omega

/-- A bribe is no less than the base fee. -/
theorem baseFee_le_of_bribe {maxFee : Word}
    (bribe : calculateBribeForMaxFee recipe targetBlock random = .ok maxFee) :
    targetBlock.baseFee ≤ maxFee := by
  unfold calculateBribeForMaxFee at bribe
  obtain ⟨fee, -, bribe⟩ := except_bind bribe
  cases covered : checkedSub recipe.revenue fee with
  | none =>
    simp only [covered] at bribe
    cases bribe
  | some revenue =>
    simp only [covered] at bribe
    obtain ⟨_, -, bribe⟩ := except_bind bribe
    obtain ⟨withDust, -, bribe⟩ := except_bind bribe
    obtain ⟨share, -, bribe⟩ := except_bind bribe
    split at bribe
    · cases bribe
    split at bribe
    · cases bribe
    next enough =>
    split at bribe <;> cases bribe
    exact BitVec.not_lt.mp enough

/-- The two requests of a bundle. -/
theorem sendBundle_requests {bundle : BundleRequest}
    (sent : sendBundle recipe targetBlock maker random = .ok bundle) :
    ∃ (frontrun backrun : Eip1559TransactionRequest) (rawFrontrun rawBackrun : List Byte),
      frontrun.Carries maker recipe.frontrun recipe.frontrunGasUsed recipe.frontrunAccessList
      ∧ backrun.Carries maker recipe.backrun recipe.backrunGasUsed recipe.backrunAccessList
      ∧ frontrun.maxFeePerGas = targetBlock.baseFee ∧ targetBlock.baseFee ≤ backrun.maxFeePerGas
      ∧ frontrun.nonce = maker.nonce ∧ backrun.nonce.toNat = maker.nonce.toNat + 1
      ∧ maker.signEip1559 frontrun = some rawFrontrun ∧ maker.signEip1559 backrun = some rawBackrun
      ∧ bundle.transactions = rawFrontrun :: recipe.meats.map maker.rlp ++ [rawBackrun] := by
  unfold sendBundle at sent
  obtain ⟨_, frontGas, sent⟩ := except_bind sent
  obtain ⟨rawFrontrun, signedFrontrun, sent⟩ := except_bind sent
  obtain ⟨maxFee, bribe, sent⟩ := except_bind sent
  obtain ⟨_, backGas, sent⟩ := except_bind sent
  obtain ⟨_, nextNonce, sent⟩ := except_bind sent
  obtain ⟨rawBackrun, signedBackrun, sent⟩ := except_bind sent
  obtain ⟨_, _, sent⟩ := except_bind sent
  refine ⟨_, _, rawFrontrun, rawBackrun, ?_, ?_, rfl, baseFee_le_of_bribe bribe, rfl, (fits_eq_ok nextNonce).1,
    sign_eq_ok signedFrontrun, sign_eq_ok signedBackrun, constructBundle_transactions sent⟩
  · exact ⟨rfl, rfl, rfl, rfl, gas_suffices frontGas, rfl⟩
  · exact ⟨rfl, rfl, rfl, rfl, gas_suffices backGas, rfl⟩

end Sending

/-! ### Inspected simulations -/

/-- The EVM of a simulation. -/
def BotEvent.backend : BotEvent → Option Backend
  | .simulate _ backend _ | .simulateMega backend _ => some backend
  | _ => none

section Simulations

variable {config : Config} {precompiles : List Address} {opcodeJumpmap : Byte → Option String}
  {nextBlock : TargetBlock} {recipe : OptimalRecipe}

end Simulations

/-! ### The recipes of a bot -/

/-- Every recipe that a bot holds is good for its block. -/
structure Bot.All (config : Config) (good : TargetBlock → OptimalRecipe → Prop) (state : Bot) :
    Prop where
  tasks : ∀ task ∈ state.tasks, ∀ recipe, task.optimalSandwich = some recipe →
    good task.blockOracle.nextBlock recipe
  sending : ∀ task ∈ state.sending, good task.nextBlock task.optimalSandwich
  mega : ∀ task, state.mega = some task → ∀ recipe, task.optimalSandwich = some recipe →
    good task.nextBlock recipe
  sent : ∀ sent ∈ state.sent, good sent.targetBlock sent.optimalSandwich
    ∧ ∃ random, sendBundle sent.optimalSandwich sent.targetBlock
      { config.maker with nonce := sent.nonce } random = .ok sent.bundle

section All

variable {config : Config} {good : TargetBlock → OptimalRecipe → Prop} {state after : Bot}

/-- A bundle for a good recipe. -/
theorem Bot.All.send (all : state.All config good) {victimTx : Option Meat} {recipe : OptimalRecipe}
    {targetBlock : TargetBlock} {random : ℕ} (holds : good targetBlock recipe) :
    ∀ sent ∈ state.sent ++ config.send victimTx recipe targetBlock random state,
      good sent.targetBlock sent.optimalSandwich
        ∧ ∃ random, sendBundle sent.optimalSandwich sent.targetBlock
          { config.maker with nonce := sent.nonce } random = .ok sent.bundle := by
  intro sent there
  rcases List.mem_append.mp there with earlier | new
  · exact all.sent sent earlier
  · unfold Config.send at new
    split at new
    · next bundle sends =>
      obtain rfl := List.mem_singleton.mp new
      exact ⟨holds, random, sends⟩
    · exact absurd new List.not_mem_nil

/-- When every simulation of a step is good for its block, so is every recipe behind it. -/
theorem all_step (all : state.All config good) {event : BotEvent}
    (simulates : ∀ backend revenue nextBlock balance multiIngredients recipe,
      event.backend = some backend →
      (∀ ingredients ∈ multiIngredients, ∃ pool meats,
        ingredients = rawIngredients pool meats getWethAddress) →
      config.createOptimalSandwich backend revenue nextBlock balance multiIngredients = some recipe →
      good nextBlock recipe)
    (taken : state.next config event = some after) : after.All config good := by
  cases Bot.steps_of_next taken with
  | newBlock _ | updateSearcherNonce _ | clear _ _ | update _ _ | startTimer _ | insertPool | ignoreVictim
  | victim _ | loseVictim =>
    exact { all with }
  | look _ _ _ =>
    refine { all with tasks := fun task there => ?_ }
    rcases List.mem_append.mp there with earlier | new
    · exact all.tasks task earlier
    · obtain ⟨found, -, rfl⟩ := List.mem_map.mp new
      exact forall_of_none
  | simulate listed found =>
    refine { all with tasks := fun other there => ?_ }
    rcases List.mem_or_eq_of_mem_set there with earlier | rfl
    · exact all.tasks other earlier
    · rintro _ ⟨⟩
      refine simulates _ _ _ _ _ _ rfl (fun ingredients made => ?_) found
      exact ⟨_, _, List.mem_singleton.mp made⟩
  | dropTask =>
    exact { all with tasks := fun other there => all.tasks other (List.mem_of_mem_eraseIdx there) }
  | addRecipe listed computed =>
    refine { all with
      tasks := fun other there => all.tasks other (List.mem_of_mem_eraseIdx there)
      sending := fun other there => ?_ }
    rcases List.mem_append.mp there with earlier | new
    · exact all.sending other earlier
    · obtain rfl := List.mem_singleton.mp new
      exact all.tasks _ (List.mem_of_getElem? listed) _ computed
  | sendBundle listed =>
    exact { all with
      sending := fun other there => all.sending other (List.mem_of_mem_eraseIdx there)
      sent := all.send (all.sending _ (List.mem_of_getElem? listed)) }
  | makeMegaSandwich _ _ =>
    refine { all with mega := ?_ }
    rintro _ ⟨⟩ _ ⟨⟩
  | simulateMega running found =>
    refine { all with mega := ?_ }
    rintro _ ⟨⟩ _ ⟨⟩
    refine simulates _ _ _ _ _ _ rfl (fun ingredients made => ?_) found
    obtain ⟨entry, -, rfl⟩ := List.mem_map.mp made
    exact ⟨_, _, rfl⟩
  | dropMega => exact { all with mega := forall_of_none }
  | sendMega running computed =>
    exact { all with
      mega := forall_of_none
      sent := all.send (all.mega _ running _ computed) }

end All

/-! ### Whole runs -/

/-- A new bot holds no recipe. -/
theorem all_new (config : Config) (good : TargetBlock → OptimalRecipe → Prop) (nonce : Word)
    (blockOracle : BlockOracle) (allPools : AllPools) (wethBalance : Word) :
    (Bot.new nonce blockOracle allPools wethBalance).All config good where
  tasks _ there := nomatch there
  sending _ there := nomatch there
  mega _ none := nomatch none
  sent _ there := nomatch there

end Sando.Runner
