/-
What the parts of the simulators leave alone.

A computation (`Computes`) leaves the state as it is, and an idle program (`Idle`) builds no segment;
neither indexes a list. All parts of `sanityCheck` but the loops over the ingredients are idle.
-/

import Sando.Simulate.MakeSandwich

namespace Sando.Simulate

open Sando.Evm Sando.Program

variable {α β : Type}

/-! ### Computations -/

/-- The state stays as it is, and no index is out of range. -/
def Computes (program : Simulation α) : Prop :=
  ∀ invariant, Triple invariant program (fun _ => invariant)
    fun failure state => failure ≠ .outOfRange ∧ invariant state

theorem Computes.keeps {program : Simulation α} (computes : Computes program)
    (invariant : State → Prop) : Keeps invariant program :=
  (computes invariant).weaken (fun _ holds => holds) (fun _ _ holds => holds)
    fun _ _ holds => holds.2

theorem computes_pure (value : α) : Computes (pure value) := fun _ => triple_pure fun _ holds => holds

theorem computes_panic : Computes (throw .panic : Simulation α) :=
  fun _ => triple_throw fun _ holds => ⟨Failure.noConfusion, holds⟩

theorem computes_error (error : SimulationError) : Computes (throw (.error error) : Simulation α) :=
  fun _ => triple_throw fun _ holds => ⟨Failure.noConfusion, holds⟩

theorem computes_ofOption (option : Option α) : Computes (ofOption .panic option) :=
  fun _ => triple_ofOption (fun _ _ _ holds => holds) fun _ _ holds => ⟨Failure.noConfusion, holds⟩

theorem computes_bind {program : Simulation α} {rest : α → Simulation β} (first : Computes program)
    (second : ∀ value, Computes (rest value)) : Computes (program >>= rest) :=
  fun invariant => triple_bind _ (first invariant) fun value => second value invariant

theorem computes_ite {condition : Prop} [Decidable condition] {program other : Simulation α}
    (yes : Computes program) (no : Computes other) :
    Computes (if condition then program else other) :=
  fun invariant => triple_ite (fun _ => yes invariant) fun _ => no invariant

theorem computes_u256 (value : ℕ) : Computes (u256 value) := computes_ofOption _

theorem computes_toU64 (value : Word) : Computes (toU64 value) := computes_ofOption _

theorem computes_asU128 (value : Word) : Computes (asU128 value) :=
  computes_ite (computes_pure _) computes_panic

theorem computes_chainId (meat : Meat) : Computes (meat.chainId.mapM toU64) := by
  cases meat.chainId with
  | some id => exact computes_bind (computes_toU64 id) fun _ => computes_pure _
  | none => exact computes_pure _

theorem computes_buildSwapData (pool : TargetPool) (amountIn : Word) (tokenIn tokenOut : Address) :
    Computes (buildSwapData pool amountIn tokenIn tokenOut) := by
  unfold buildSwapData
  cases pool.poolVariant with
  | uniswapV2 => exact computes_pure _
  | uniswapV3 => exact computes_bind (computes_asU128 _) fun _ => computes_pure _

theorem computes_extend (bundle : Bundle) (segment : List Byte × Word) :
    Computes (bundle.extend segment) :=
  computes_bind (computes_u256 _) fun _ => computes_pure _

section Payloads

variable (setup : Setup) (isMultiple isFirst : Bool) (amountIn amountOut : Word)
  (ingredients : RawIngredients)

theorem computes_frontrunPayload :
    Computes (setup.frontrunPayload isMultiple isFirst amountIn amountOut ingredients) := by
  unfold Setup.frontrunPayload
  dsimp only
  cases ingredients.targetPool.poolVariant with
  | uniswapV2 => exact computes_ite (computes_ofOption _) (computes_ofOption _)
  | uniswapV3 =>
    refine computes_bind (computes_asU128 _) fun _ => computes_bind (computes_asU128 _) fun _ => ?_
    exact computes_ite (computes_ofOption _) (computes_ofOption _)

theorem computes_backrunPayload :
    Computes (setup.backrunPayload isMultiple isFirst amountIn amountOut ingredients) := by
  unfold Setup.backrunPayload
  dsimp only
  cases ingredients.targetPool.poolVariant with
  | uniswapV2 => exact computes_ite (computes_ofOption _) (computes_ofOption _)
  | uniswapV3 =>
    refine computes_bind (computes_asU128 _) fun _ => computes_bind (computes_asU128 _) fun _ => ?_
    exact computes_ite (computes_ofOption _) (computes_ofOption _)

end Payloads

/-! ### Idle programs -/

/-- No segment is built, and no index is out of range. -/
def Idle (program : Simulation α) : Prop :=
  ∀ built, Triple (fun state => state.built = built) program (fun _ state => state.built = built)
    fun failure _ => failure ≠ .outOfRange

/-- What holds of the segments that were built still holds. -/
theorem Idle.holds {program : Simulation α} (idle : Idle program) (claim : List Built → Prop) :
    Triple (fun state => claim state.built) program (fun _ state => claim state.built)
      fun failure _ => failure ≠ .outOfRange := by
  intro state holds
  have ends := idle state.built state rfl
  revert ends
  cases program state with
  | ok _ state' =>
    intro same
    change state'.built = state.built at same
    change claim state'.built
    rwa [same]
  | error _ _ => exact id

theorem Computes.idle {program : Simulation α} (computes : Computes program) : Idle program :=
  fun _ => (computes _).weaken (fun _ holds => holds) (fun _ _ holds => holds)
    fun _ _ holds => holds.1

theorem idle_bind {program : Simulation α} {rest : α → Simulation β} (first : Idle program)
    (second : ∀ value, Idle (rest value)) : Idle (program >>= rest) :=
  fun built => triple_bind _ (first built) fun value => second value built

theorem idle_setTx (change : TxEnv → TxEnv) : Idle (setTx change) :=
  fun _ => triple_modify fun _ holds => holds

theorem idle_runTx (how : How) (role : Role) : Idle (runTx how role) := fun _ _ holds => holds

section Programs

variable (setup : Setup)

theorem computes_output (answer : Answer) : Computes (match answer with
    | .evmError => throw (.error .evmError)
    | .success output _ => pure output
    | .revert output _ => throw (.error (.evmReverted output))
    | .halt _ => throw (.error .evmHalted) : Simulation (List Byte)) := by
  cases answer with
  | success _ _ => exact computes_pure _
  | _ => exact computes_error _

theorem idle_query (role : Role) : Idle (setup.query role) :=
  idle_bind (idle_runTx _ _) fun _ => (computes_output _).idle

/-- A quote is one query and a computation, with the fees that are there. -/
theorem getAmountOut_shape (pool : TargetPool) (amountIn : Word) (tokenIn tokenOut : Address) :
    ∃ (change : TxEnv → TxEnv) (rest : List Byte → Simulation Word),
      setup.getAmountOut pool amountIn tokenIn tokenOut
        = (do setTx change; let output ← setup.query .quote; rest output)
      ∧ (∀ tx, (change tx).gasPriorityFee = tx.gasPriorityFee)
      ∧ (∀ tx, (change tx).gasPrice = tx.gasPrice) ∧ ∀ output, Computes (rest output) := by
  unfold Setup.getAmountOut
  cases pool.poolVariant with
  | uniswapV2 =>
    refine ⟨_, _, rfl, fun _ => rfl, fun _ => rfl, fun output => ?_⟩
    refine computes_ite (computes_bind computes_panic fun _ => ?_) ?_
    all_goals
      refine computes_bind (computes_u256 _) fun _ => computes_bind (computes_u256 _) fun _ => ?_
      refine computes_bind (computes_u256 _) fun _ => computes_bind (computes_u256 _) fun _ => ?_
      exact computes_pure _
  | uniswapV3 =>
    refine ⟨_, _, rfl, fun _ => rfl, fun _ => rfl, fun output => ?_⟩
    exact computes_ite (computes_bind (computes_error _) fun _ => computes_pure _) (computes_pure _)

theorem idle_getAmountOut (pool : TargetPool) (amountIn : Word) (tokenIn tokenOut : Address) :
    Idle (setup.getAmountOut pool amountIn tokenIn tokenOut) := by
  obtain ⟨change, rest, same, _, _, computes⟩ :=
    getAmountOut_shape setup pool amountIn tokenIn tokenOut
  rw [same]
  exact idle_bind (idle_setTx _) fun _ => idle_bind (idle_query setup _) fun _ => (computes _).idle

theorem computes_balance (output : List Byte) : Computes (do
    if output.length < 32 then throw (.error .abiError)
    pure (wordAt (byteAt output) 0) : Simulation Word) :=
  computes_ite (computes_bind (computes_error _) fun _ => computes_pure _) (computes_pure _)

theorem idle_getBalanceOfEvm (token owner : Address) : Idle (setup.getBalanceOfEvm token owner) :=
  idle_bind (idle_setTx _) fun _ => idle_bind (idle_query setup _) fun output =>
    (computes_balance output).idle

section Payload

variable (role : Role) (failed halted notSafu : SimulationError)
  (reverted : List Byte → SimulationError)

theorem computes_report (ran : List Ran) (accessList : AccessList) : Computes (
    match setup.backend.answer ran with
    | .evmError => throw (.error failed)
    | .revert output _ => throw (.error (reverted output))
    | .halt _ => throw (.error halted)
    | .success _ gasUsed =>
      if setup.backend.isSandoSafu ran then pure (gasUsed, accessList)
      else throw (.error notSafu) : Simulation (ℕ × AccessList)) := by
  cases setup.backend.answer ran with
  | success _ _ => exact computes_ite (computes_pure _) (computes_error _)
  | _ => exact computes_error _

theorem idle_sendPayload (clearAccessList : Bool) (bundle : Bundle) (count : ℕ) : Idle
    (setup.sendPayload role failed halted notSafu reverted clearAccessList bundle count) := by
  refine idle_bind (idle_setTx _) fun _ => idle_bind (idle_runTx _ _) fun ran => ?_
  have again : Idle (setup.sendWithAccessList role failed halted notSafu reverted
      (setup.backend.accessList ran)) :=
    idle_bind (idle_setTx _) fun _ => idle_bind (idle_runTx _ _) fun _ =>
      (computes_report setup _ _ _ _ _ _).idle
  cases setup.backend.answer ran with
  | evmError => exact computes_panic.idle
  | _ => exact again

end Payload

theorem idle_loadMeat {untyped : Option Word → Simulation Word} (idle : ∀ price, Idle (untyped price))
    (meat : Meat) : Idle (loadMeat untyped meat) := by
  refine idle_bind (computes_chainId meat).idle fun _ => idle_bind (computes_toU64 _).idle fun _ => ?_
  refine idle_bind (idle_setTx _) fun _ => ?_
  split
  · exact idle_setTx _
  · exact idle_setTx _
  · exact idle_bind (idle _) fun _ => idle_setTx _

theorem idle_commitMeats (meats : List Meat) : ∀ goodMeats : List Meat,
    Idle (setup.commitMeats meats goodMeats) := by
  induction meats with
  | nil => exact fun _ => (computes_pure _).idle
  | cons meat meats ih =>
    intro goodMeats
    refine idle_bind (idle_loadMeat (fun _ => (computes_ofOption _).idle) meat) fun _ => ?_
    refine idle_bind (idle_runTx _ _) fun ran => ?_
    cases setup.backend.answer ran with
    | evmError => exact (computes_error _).idle
    | _ => exact ih _

end Programs

/-! ### One segment -/

section Segments

variable {setup : Setup} (isMultiple : Bool) (index : ℕ) (ingredients : RawIngredients)

/-- A frontrun segment is built with the amount it hands on to the backrun. -/
theorem frontrunSegment_spec (frontrunIn : Word) (frontruns : Frontruns) (built : List Built) :
    Triple (fun state => state.built = built)
      (setup.frontrunSegment isMultiple index frontrunIn ingredients frontruns)
      (fun next state => ∃ frontrunOut pool bundle,
        pool.poolVariant = ingredients.targetPool.poolVariant
        ∧ next = ⟨bundle, frontruns.backrunIns ++ [frontrunOut],
            frontruns.ingredients ++ [{ ingredients with targetPool := pool }]⟩
        ∧ state.built = built ++ [.frontrun index (index = 0) frontrunIn frontrunOut])
      fun failure _ => failure ≠ .outOfRange := by
  refine triple_bind _ (idle_setTx _ built) fun _ => ?_
  refine triple_bind _ (idle_getBalanceOfEvm setup _ _ built) fun balance => ?_
  refine triple_bind _ (idle_getAmountOut setup _ _ _ _ built) fun amountOut => ?_
  refine triple_bind _ ((computes_ofOption _).idle built) fun frontrunOut => ?_
  refine triple_bind (fun _ state => state.built
    = built ++ [.frontrun index (index = 0) frontrunIn (BitVec.ofNat 256 frontrunOut)]) ?_ fun _ => ?_
  · exact triple_modify fun _ same => congrArg (· ++ _) same
  refine triple_bind _ ((computes_frontrunPayload _ _ _ _ _ _).idle _) fun segment => ?_
  refine triple_bind _ ((computes_extend _ _).idle _) fun bundle => ?_
  let pool := { ingredients.targetPool with
    hasDust := ingredients.targetPool.hasDust || decide (0 < balance) }
  exact triple_pure fun _ same => ⟨_, pool, bundle, rfl, rfl, same⟩

/-- What the loop is left with. -/
theorem frontrunSegment_next (frontrunIn : Word) (frontruns : Frontruns) :
    Triple (fun _ => True)
      (setup.frontrunSegment isMultiple index frontrunIn ingredients frontruns)
      (fun next _ => (∃ frontrunOut pool bundle,
        next = ⟨bundle, frontruns.backrunIns ++ [frontrunOut],
          frontruns.ingredients ++ [{ ingredients with targetPool := pool }]⟩) ∧ True)
      fun _ _ => True := by
  have each : ∀ built, Triple (fun state => state.built = built)
      (setup.frontrunSegment isMultiple index frontrunIn ingredients frontruns) _ fun _ _ => True :=
    fun built => (frontrunSegment_spec isMultiple index ingredients frontrunIn frontruns built).weaken
      (fun _ holds => holds) (fun next _ holds => (⟨by
        obtain ⟨frontrunOut, pool, bundle, _, same, _⟩ := holds
        exact ⟨frontrunOut, pool, bundle, same⟩, trivial⟩ : (∃ frontrunOut pool bundle,
          next = ⟨bundle, frontruns.backrunIns ++ [frontrunOut],
            frontruns.ingredients ++ [{ ingredients with targetPool := pool }]⟩) ∧ True))
      fun _ _ _ => trivial
  exact (triple_exists each).weaken (fun state _ => ⟨state.built, rfl⟩) (fun _ _ holds => holds)
    fun _ _ holds => holds

/-- A backrun segment spends the amount at its own index. -/
theorem backrunSegment_spec (backrunIns : List Word) (bundle : Bundle) (built : List Built) :
    Triple (fun state => state.built = built)
      (setup.backrunSegment isMultiple backrunIns index ingredients bundle)
      (fun _ state => ∃ frontrunOut backrunIn backrunOut, backrunIns[index]? = some frontrunOut
        ∧ encodeIntermediaryToken ingredients frontrunOut = some backrunIn
        ∧ state.built
          = built ++ [.backrun index (index = 0) (BitVec.ofNat 256 backrunIn) backrunOut])
      fun failure _ => failure = .outOfRange → backrunIns[index]? = none := by
  have safe : ∀ {α : Type} {program : Simulation α}, Idle program → ∀ built,
      Triple (fun state => state.built = built) program (fun _ state => state.built = built)
        fun failure _ => failure = .outOfRange → backrunIns[index]? = none := fun idle built =>
    (idle built).weaken (fun _ holds => holds) (fun _ _ holds => holds)
      fun _ _ other same => absurd same other
  refine triple_bind (fun frontrunOut state => backrunIns[index]? = some frontrunOut
    ∧ state.built = built) ?_ fun frontrunOut => triple_fact fun there => ?_
  · exact triple_ofOption (fun _ there _ same => ⟨there, same⟩) fun missing _ _ _ => missing
  refine triple_bind (fun backrunIn state =>
    encodeIntermediaryToken ingredients frontrunOut = some backrunIn ∧ state.built = built)
    ?_ fun backrunIn => triple_fact fun encoded => ?_
  · exact triple_ofOption (fun _ encoded _ same => ⟨encoded, same⟩)
      fun _ _ _ impossible => nomatch impossible
  refine triple_bind _ (safe (idle_getAmountOut setup _ _ _ _) built) fun amountOut => ?_
  let segment : Built := .backrun index (index = 0) (BitVec.ofNat 256 backrunIn)
    (BitVec.ofNat 256 (TxBuilder.encodeWeth amountOut.toNat))
  refine triple_bind (fun _ state => state.built = built ++ [segment]) ?_ fun _ => ?_
  · exact triple_modify fun _ same => congrArg (· ++ _) same
  refine triple_bind _ (safe (computes_backrunPayload _ _ _ _ _ _).idle _) fun payload => ?_
  refine (safe (computes_extend _ _).idle _).weaken (fun _ holds => holds) ?_ fun _ _ holds => holds
  exact fun _ state same => ⟨frontrunOut, backrunIn, _, there, encoded, same⟩

end Segments

end Sando.Simulate
