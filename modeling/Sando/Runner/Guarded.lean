/-
The transactions of a bundle are for its block only.

Every payload starts with the low byte of the number of the block that it was simulated for, however many
swaps it has and whatever the pools are. The contract compares this byte with the block it is in. So
whoever sends a payload of a bundle, in whatever block, the contract makes no call, unless the searcher
sends it in a block whose number ends in the same byte (`bundles_guarded`).
-/

import Sando.Huff.Callback
import Sando.Runner.Slices

namespace Sando.Runner

open Sando.Evm Sando.Huff Sando.TxBuilder Sando.Simulate Sando.Program Sando.StateDiff

/-! ### Payloads -/

/-- A payload with the block number in front. -/
def Numbered (number : Word) (payload : List Byte) : Prop :=
  ∃ rest, payload = bigEndian 1 number.toNat ++ rest

theorem Numbered.append {number : Word} {payload : List Byte} (numbered : Numbered number payload)
    (behind : List Byte) : Numbered number (payload ++ behind) := by
  obtain ⟨rest, rfl⟩ := numbered
  exact ⟨rest ++ behind, List.append_assoc _ _ _⟩

/-- What is packed with the block number in front. -/
theorem numbered_encodePacked (number : Word) (tokens : List PackedToken) :
    Numbered number (encodePacked (.numberWithShift number ⟨8, fits_8⟩ :: tokens)) := by
  rw [encodePacked_cons, pack_numberWithShift]
  exact ⟨_, rfl⟩

section Builders

variable {keccak : List Byte → Word} {number amountIn amountOut : Word} {input output token : Address}
  {pool : Pool} {isFirst : Bool} {segment : List Byte × Word}

theorem numbered_v2PayloadWethIsInput
    (built : V2.createPayloadWethIsInput number amountIn amountOut token pool = some segment) :
    Numbered number segment.1 := by
  obtain ⟨encoded, -, built⟩ := Option.bind_eq_some_iff.mp built
  obtain ⟨swapType, -, built⟩ := Option.bind_eq_some_iff.mp built
  rw [← Option.some.inj built]
  dsimp only
  exact numbered_encodePacked _ _

theorem numbered_v2PayloadWethIsOutput
    (built : V2.createPayloadWethIsOutput number amountIn amountOut token pool = some segment) :
    Numbered number segment.1 := by
  obtain ⟨encoded, -, built⟩ := Option.bind_eq_some_iff.mp built
  obtain ⟨swapType, -, built⟩ := Option.bind_eq_some_iff.mp built
  rw [← Option.some.inj built]
  dsimp only
  exact numbered_encodePacked _ _

theorem numbered_v3PayloadWethIsInput
    (built : V3.createPayloadWethIsInput keccak number amountIn amountOut input output pool
      = some segment) : Numbered number segment.1 := by
  obtain ⟨bought, rest, -, same⟩ := V3.createPayloadWethIsInput_fields built
  exact ⟨_, same⟩

theorem numbered_v3PayloadWethIsOutput
    (built : V3.createPayloadWethIsOutput keccak number amountIn amountOut input output pool
      = some segment) : Numbered number segment.1 := by
  obtain ⟨sold, rest, -, same⟩ := V3.createPayloadWethIsOutput_fields built
  exact ⟨_, same⟩

theorem numbered_withBlock (payloadData : List Byte) :
    Numbered number (V3.withBlock number isFirst payloadData) := ⟨_, V3.withBlock_eq⟩

end Builders

section Segments

variable {setup : Setup} {isMultiple isFirst : Bool} {amountIn amountOut : Word}
  {ingredients : RawIngredients} {segment : List Byte × Word} {state state' : State}

theorem numbered_frontrunPayload
    (built : setup.frontrunPayload isMultiple isFirst amountIn amountOut ingredients state
      = .ok segment state') : Numbered setup.blockNumber segment.1 := by
  cases variant : ingredients.targetPool.poolVariant with
  | uniswapV2 =>
    rw [Setup.frontrunPayload, variant] at built
    cases isMultiple with
    | true => exact V2.createMultiPayloadWethIsInput_starts (ofOption_eq_ok.mp built).1
    | false => exact numbered_v2PayloadWethIsInput (ofOption_eq_ok.mp built).1
  | uniswapV3 =>
    rw [Setup.frontrunPayload, variant] at built
    obtain ⟨first, _, -, built⟩ := bind_eq_ok.mp built
    obtain ⟨second, _, -, built⟩ := bind_eq_ok.mp built
    cases isMultiple with
    | true =>
      obtain ⟨payloadData, same⟩ :=
        V3.createMultiPayloadWethIsInput_withBlock (ofOption_eq_ok.mp built).1
      exact same ▸ numbered_withBlock payloadData
    | false => exact numbered_v3PayloadWethIsInput (ofOption_eq_ok.mp built).1

theorem numbered_backrunPayload
    (built : setup.backrunPayload isMultiple isFirst amountIn amountOut ingredients state
      = .ok segment state') : Numbered setup.blockNumber segment.1 := by
  cases variant : ingredients.targetPool.poolVariant with
  | uniswapV2 =>
    rw [Setup.backrunPayload, variant] at built
    cases isMultiple with
    | true => exact V2.createMultiPayloadWethIsOutput_starts (ofOption_eq_ok.mp built).1
    | false => exact numbered_v2PayloadWethIsOutput (ofOption_eq_ok.mp built).1
  | uniswapV3 =>
    rw [Setup.backrunPayload, variant] at built
    obtain ⟨first, _, -, built⟩ := bind_eq_ok.mp built
    obtain ⟨second, _, -, built⟩ := bind_eq_ok.mp built
    cases isMultiple with
    | true =>
      obtain ⟨payloadData, same⟩ :=
        V3.createMultiPayloadWethIsOutput_withBlock (ofOption_eq_ok.mp built).1
      exact same ▸ numbered_withBlock payloadData
    | false => exact numbered_v3PayloadWethIsOutput (ofOption_eq_ok.mp built).1

end Segments

/-! ### A sanity check -/

/-- A frontrun has the block number in front as soon as it has a segment. -/
def Numbered.Opens (number : Word) (frontruns : Frontruns) : Prop :=
  frontruns.bundle.data = [] ∧ frontruns.backrunIns = [] ∨ Numbered number frontruns.bundle.data

section SanityCheck

variable {setup : Setup} {isMultiple : Bool} {ingredients : RawIngredients} {slice : Bundle}
  {state state' : State}

/-- A segment that is put behind nothing or behind others. -/
theorem numbered_extend {number : Word} {segment : List Byte × Word} {extended : Bundle}
    (before : slice.data = [] ∨ Numbered number slice.data) (numbered : Numbered number segment.1)
    (ok : slice.extend segment state = .ok extended state') : Numbered number extended.data := by
  obtain ⟨value, _, -, ok⟩ := bind_eq_ok.mp ok
  obtain ⟨rfl, rfl⟩ := pure_eq_ok.mp ok
  dsimp only
  rcases before with empty | earlier
  · rw [empty, List.nil_append]
    exact numbered
  · exact earlier.append _

theorem numbered_finish {number : Word} (numbered : Numbered number slice.data) :
    Numbered number (slice.finish isMultiple).data := by
  unfold Bundle.finish
  split
  · exact numbered.append _
  · exact numbered

theorem numbered_frontrunSegment {index : ℕ} {frontrunIn : Word} {frontruns next : Frontruns}
    (opens : Numbered.Opens setup.blockNumber frontruns)
    (ok : setup.frontrunSegment isMultiple index frontrunIn ingredients frontruns state
      = .ok next state') :
    Numbered setup.blockNumber next.bundle.data := by
  obtain ⟨_, _, -, ok⟩ := bind_eq_ok.mp ok
  obtain ⟨_, _, -, ok⟩ := bind_eq_ok.mp ok
  obtain ⟨_, _, -, ok⟩ := bind_eq_ok.mp ok
  obtain ⟨_, _, -, ok⟩ := bind_eq_ok.mp ok
  obtain ⟨_, _, -, ok⟩ := bind_eq_ok.mp ok
  obtain ⟨segment, _, built, ok⟩ := bind_eq_ok.mp ok
  obtain ⟨extended, _, extends', ok⟩ := bind_eq_ok.mp ok
  obtain ⟨rfl, rfl⟩ := pure_eq_ok.mp ok
  exact numbered_extend (opens.imp_left And.left) (numbered_frontrunPayload built) extends'

theorem numbered_frontrunLoop {frontrunIns : List Word} {all : List RawIngredients} :
    ∀ {index : ℕ} {frontruns final : Frontruns} {state : State},
      Numbered.Opens setup.blockNumber frontruns →
      setup.frontrunLoop isMultiple frontrunIns index all frontruns state = .ok final state' →
      Numbered.Opens setup.blockNumber final := by
  induction all with
  | nil =>
    intro index frontruns final state opens ok
    obtain ⟨rfl, rfl⟩ := pure_eq_ok.mp ok
    exact opens
  | cons ingredients rest ih =>
    intro index frontruns final state opens ok
    obtain ⟨amount, _, -, ok⟩ := bind_eq_ok.mp ok
    split at ok
    · -- an amount that rounds to zero is skipped
      have skipped : Numbered.Opens setup.blockNumber
          { frontruns with ingredients := frontruns.ingredients ++ [ingredients] } := opens
      exact ih skipped ok
    · obtain ⟨next, _, prepared, ok⟩ := bind_eq_ok.mp ok
      exact ih (.inr (numbered_frontrunSegment opens prepared)) ok

theorem numbered_backrunSegment {backrunIns : List Word} {index : ℕ} {extended : Bundle}
    (before : slice.data = [] ∨ Numbered setup.blockNumber slice.data)
    (ok : setup.backrunSegment isMultiple backrunIns index ingredients slice state
      = .ok extended state') :
    Numbered setup.blockNumber extended.data ∧ index < backrunIns.length := by
  obtain ⟨amount, _, listed, ok⟩ := bind_eq_ok.mp ok
  obtain ⟨_, _, -, ok⟩ := bind_eq_ok.mp ok
  obtain ⟨_, _, -, ok⟩ := bind_eq_ok.mp ok
  obtain ⟨_, _, -, ok⟩ := bind_eq_ok.mp ok
  obtain ⟨segment, _, built, ok⟩ := bind_eq_ok.mp ok
  exact ⟨numbered_extend before (numbered_backrunPayload built) ok,
    (List.getElem?_eq_some_iff.mp (ofOption_eq_ok.mp listed).1).1⟩

theorem numbered_backrunLoop {backrunIns : List Word} {all : List RawIngredients} :
    ∀ {index : ℕ} {slice final : Bundle} {state : State}, Numbered setup.blockNumber slice.data →
      setup.backrunLoop isMultiple backrunIns index all slice state = .ok final state' →
      Numbered setup.blockNumber final.data := by
  induction all with
  | nil =>
    intro index slice final state numbered ok
    obtain ⟨rfl, rfl⟩ := pure_eq_ok.mp ok
    exact numbered
  | cons ingredients rest ih =>
    intro index slice final state numbered ok
    obtain ⟨next, _, prepared, ok⟩ := bind_eq_ok.mp ok
    exact ih (numbered_backrunSegment (.inr numbered) prepared).1 ok

/-- Both slices of a recipe have the block number in front. -/
theorem numbered_sanityCheck {sandwichStartBalance : Word} {frontrunIns : List Word}
    {multiIngredients : List RawIngredients} {recipe : OptimalRecipe}
    (ok : setup.sanityCheck sandwichStartBalance frontrunIns multiIngredients state
      = .ok recipe state') :
    Numbered setup.blockNumber recipe.frontrun.data
      ∧ Numbered setup.blockNumber recipe.backrun.data := by
  obtain ⟨frontruns, quoted, loop, ok⟩ := bind_eq_ok.mp ok
  have opens := numbered_frontrunLoop (.inl ⟨rfl, rfl⟩) loop
  obtain ⟨⟨frontrunGasUsed, frontrunAccessList⟩, opened, -, ok⟩ := bind_eq_ok.mp ok
  obtain ⟨goodMeats, committed, commits, ok⟩ := bind_eq_ok.mp ok
  split at ok
  · obtain ⟨_, _, thrown, _⟩ := bind_eq_ok.mp ok
    exact absurd thrown throw_ne_ok
  next some =>
  obtain ⟨backrun, prepared, prepares, ok⟩ := bind_eq_ok.mp ok
  obtain ⟨⟨backrunGasUsed, backrunAccessList⟩, closed, -, ok⟩ := bind_eq_ok.mp ok
  obtain ⟨balance, read, -, ok⟩ := bind_eq_ok.mp ok
  obtain ⟨rfl, rfl⟩ := pure_eq_ok.mp ok
  cases listed : frontruns.ingredients with
  | nil =>
    -- without ingredients there are no meats
    rw [listed] at commits
    obtain ⟨rfl, rfl⟩ := pure_eq_ok.mp commits
    exact absurd rfl some
  | cons head rest =>
    rw [listed] at prepares
    obtain ⟨first, _, segment, others⟩ := bind_eq_ok.mp prepares
    obtain ⟨numbered, filled⟩ := numbered_backrunSegment (.inl rfl) segment
    refine ⟨numbered_finish (opens.resolve_left fun both => ?_),
      numbered_finish (numbered_backrunLoop numbered others)⟩
    rw [both.2] at filled
    exact absurd filled (Nat.not_lt_zero _)

end SanityCheck

/-! ### The contract -/

/-- Sent by the searcher in a block whose number ends in the same byte. -/
def OnTime (number : U64) (message : Message) : Prop :=
  message.caller = searcherAddress ∧ message.number.toNat % 256 = number.toNat % 256

/-- A payload that the contract accepts when it is on time, and that makes no call otherwise, as long as no
pool sends it. -/
def Guarded (number : U64) (payload : List Byte) : Prop :=
  ∀ world message, message.calldata = payload →
    (∀ poolKeyHash, ¬ IsPoolOf factories world.keccak message.caller poolKeyHash) →
    (OnTime number message → message.Authorised)
      ∧ (¬ OnTime number message → ∃ halt, (sandwich world message).Executes ⟨halt, []⟩)

/-- The contract reads the number that is in front. -/
theorem Numbered.guarded {number : U64} {payload : List Byte}
    (numbered : Numbered (number.setWidth 256) payload) : Guarded number payload := by
  intro world message calldata noPool
  obtain ⟨rest, same⟩ := numbered
  have front : (message.data 0).toNat = number.toNat % 256 := by
    have small : number.toNat < 2 ^ 256 := number.isLt.trans (by norm_num)
    rw [Message.data, calldata, same, ← window_one, window_append_left (by simp), window_bigEndian,
      Nat.pow_one, BitVec.toNat_setWidth, Nat.mod_eq_of_lt small]
  constructor
  · intro onTime
    exact ⟨onTime.1, front.trans onTime.2.symm⟩
  · intro elsewhere
    have unauthorised : ¬ message.Authorised := fun authorised =>
      elsewhere ⟨authorised.1, authorised.2.symm.trans front⟩
    obtain ⟨halt, executes⟩ := callback_executes world message unauthorised
    rw [if_neg fun pays => noPool _ pays.2] at executes
    exact ⟨halt, executes⟩

/-! ### Whole runs -/

/-- Both slices have the number of the block in front. -/
def RecipeNumbered (nextBlock : TargetBlock) (recipe : OptimalRecipe) : Prop :=
  Numbered (nextBlock.number.setWidth 256) recipe.frontrun.data
    ∧ Numbered (nextBlock.number.setWidth 256) recipe.backrun.data

/-- A bundle is two requests that are signed, and the victims between them. -/
def Sent.Signs (config : Config) (sent : Sent) (frontrun backrun : Eip1559TransactionRequest) : Prop :=
  ∃ rawFrontrun rawBackrun, config.maker.signEip1559 frontrun = some rawFrontrun
    ∧ config.maker.signEip1559 backrun = some rawBackrun
    ∧ sent.bundle.transactions
      = rawFrontrun :: sent.optimalSandwich.meats.map config.maker.rlp ++ [rawBackrun]

/-- They are the slices of its recipe. -/
theorem signs_of_send {config : Config} {sent : Sent} {random : ℕ}
    (sends : sendBundle sent.optimalSandwich sent.targetBlock { config.maker with nonce := sent.nonce }
      random = .ok sent.bundle) :
    ∃ frontrun backrun, sent.Signs config frontrun backrun
      ∧ (frontrun.data, frontrun.value)
        = (sent.optimalSandwich.frontrun.data, sent.optimalSandwich.frontrun.value)
      ∧ (backrun.data, backrun.value)
        = (sent.optimalSandwich.backrun.data, sent.optimalSandwich.backrun.value) := by
  obtain ⟨frontrun, backrun, rawFrontrun, rawBackrun, carriesFront, carriesBack, -, -, -, -, signedFront,
    signedBack, transactions⟩ := sendBundle_requests sends
  exact ⟨frontrun, backrun, ⟨rawFrontrun, rawBackrun, signedFront, signedBack, transactions⟩,
    Prod.ext carriesFront.data carriesFront.value, Prod.ext carriesBack.data carriesBack.value⟩

/-- Whatever happens in a run, the transactions of every bundle that is sent make the contract call
nothing, unless the searcher sends them in a block whose number ends in the byte of the bundle's. -/
theorem bundles_guarded (config : Config) (nonce : Word) (blockOracle : BlockOracle)
    (allPools : AllPools) (wethBalance : Word) (steps : List (Bot × BotEvent)) (last : Bot)
    (run : BotRun config (.new nonce blockOracle allPools wethBalance) steps last) :
    ∀ sent ∈ last.sent, ∃ frontrun backrun, sent.Signs config frontrun backrun
      ∧ Guarded sent.targetBlock.number frontrun.data ∧ Guarded sent.targetBlock.number backrun.data := by
  have keeps : ∀ (state : Bot) event (after : Bot), state.All config RecipeNumbered →
      state.next config event = some after → after.All config RecipeNumbered := by
    intro state event after all taken
    refine all_step all ?_ taken
    intro backend revenue nextBlock balance multiIngredients recipe _ _ found
    obtain ⟨-, kept, frontrunIns, final, -, run⟩ := createOptimalSandwich_eq_some found
    exact numbered_sanityCheck run
  have all := (run.invariant (all_new config _ nonce blockOracle allPools wethBalance) keeps).1
  intro sent there
  obtain ⟨⟨first, second⟩, random, sends⟩ := all.sent sent there
  obtain ⟨frontrun, backrun, signs, front, back⟩ := signs_of_send sends
  refine ⟨frontrun, backrun, signs, ?_, ?_⟩
  · rw [(Prod.mk.inj front).1]
    exact first.guarded
  · rw [(Prod.mk.inj back).1]
    exact second.guarded

theorem bundles_guarded_timely : ∃ last : Bot, last.sent.length = 2
    ∧ ∀ sent ∈ last.sent, ∃ frontrun backrun, sent.Signs plainConfig frontrun backrun
      ∧ Guarded sent.targetBlock.number frontrun.data ∧ Guarded sent.targetBlock.number backrun.data := by
  obtain ⟨steps, last, run, -, bundles⟩ := exists_timely
  refine ⟨last, ?_, bundles_guarded plainConfig 0 _ twoPairs 0 steps last run⟩
  simpa using congrArg List.length bundles

end Sando.Runner
