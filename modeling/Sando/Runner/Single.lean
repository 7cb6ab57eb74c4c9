/-
Sandwiches of one pool.

A bundle for one pool carries the payloads of one call of each builder. `RecipeBuilt` says which amounts
the builders were called with: the frontrun spends a rounded amount and buys what is left of a quote in the
bytes of the payload, and the backrun sells that, but for some dust. Every bundle of every run is made so
(`built_of_run`), and neither amount is changed again on its way into the payload (`Sells`).
-/

import Sando.Runner.Guarded
import Sando.Simulate.Alignment
import Sando.TxBuilder.Amounts

namespace Sando.Runner

open Sando.Evm Sando.TxBuilder Sando.Simulate Sando.Program Sando.StateDiff

/-! ### Amounts -/

/-- An amount that was decoded is not changed again, nor is what a backrun sells of it, which is less. -/
structure Sells (fits : ℕ → Prop) (bought sold : ℕ) : Prop where
  buys : ∀ encoded, Encodes fits bought encoded → encoded.decode = bought
  less : sold < bought
  sells : ∀ encoded, Encodes fits sold encoded → encoded.decode = sold

theorem decoded_le {fits : ℕ → Prop} (encoder : Encoder fits) {quoted bought : ℕ}
    (decoded : encoder.decoded quoted = some bought) : bought ≤ quoted := by
  obtain ⟨encoded, found, rest⟩ := Option.bind_eq_some_iff.mp decoded
  obtain rfl := Option.some.inj rest
  exact (encoder.encodes found).decode_eq.trans_le Mantissa.truncate_le

theorem encodeWeth_encodeWeth (amount : ℕ) : encodeWeth (encodeWeth amount) = encodeWeth amount := by
  unfold encodeWeth getWethEncodeDivisor
  rw [Nat.mul_div_cancel _ (by norm_num)]

theorem sells_of_decoded {fits : ℕ → Prop} (encoder : Encoder fits) {quoted bought sold : ℕ}
    (decoded : encoder.decoded quoted = some bought) (dusted : encoder.dusted bought = some sold) :
    Sells fits bought sold := by
  obtain ⟨first, foundFirst, rest⟩ := Option.bind_eq_some_iff.mp decoded
  obtain rfl := Option.some.inj rest
  obtain ⟨second, foundSecond, rest⟩ := Option.bind_eq_some_iff.mp dusted
  have quotes := encoder.encodes foundFirst
  have again := encoder.encodes foundSecond
  have kept : ∀ encoded, Encodes fits first.decode encoded → encoded.decode = first.decode := by
    intro encoded encodes
    rw [first.decode_eq] at encodes ⊢
    exact encodes.decode_representable quotes.fitting
  split at rest
  · cases rest
  next positive =>
  obtain rfl := Option.some.inj rest
  have mantissa : { second with encodedValue := second.encodedValue - 1 }.decode
      = (second.encodedValue - 1) * 256 ^ second.byteShift := EncodedSwapValue.decode_eq _
  rw [mantissa]
  refine ⟨kept, ?_, fun encoded encodes => ?_⟩
  · rw [← kept second again, EncodedSwapValue.decode_eq]
    exact Nat.mul_lt_mul_of_pos_right (by omega) (by positivity)
  · exact encodes.decode_representable (encoder.shrink _ _ (Nat.sub_le _ _) again.fitting)

/-- The amounts of a sandwich, as words: what is bought of a quote and what is sold of that. -/
theorem sells_of_quote {fits : ℕ → Prop} (encoder : Encoder fits) {quoted : Word} {bought sold : ℕ}
    (decoded : encoder.decoded quoted.toNat = some bought)
    (dusted : encoder.dusted (BitVec.ofNat 256 bought).toNat = some sold) :
    (BitVec.ofNat 256 bought).toNat = bought ∧ (BitVec.ofNat 256 sold).toNat = sold
      ∧ Sells fits bought sold := by
  have small : bought < 2 ^ 256 := (decoded_le encoder decoded).trans_lt quoted.isLt
  rw [toNat_ofNat_of_lt small] at dusted ⊢
  have sells := sells_of_decoded encoder decoded dusted
  exact ⟨rfl, toNat_ofNat_of_lt (sells.less.trans small), sells⟩

/-! ### A sanity check of one pool -/

/-- The payloads of a recipe for one pool, and the amounts they were built for. -/
structure BuiltFor (setup : Setup) (ingredients : RawIngredients) (frontrun backrun : Bundle)
    (amountIn quoted : Word) (bought sold : ℕ) (amountOut : Word) : Prop where
  spends : BitVec.ofNat 256 (encodeWeth amountIn.toNat) ≠ (0 : Word)
  decoded : decodeIntermediary ingredients quoted = some bought
  dusted : encodeIntermediaryToken ingredients (BitVec.ofNat 256 bought) = some sold
  opens : ∃ before after, setup.frontrunPayload false true
    (BitVec.ofNat 256 (encodeWeth amountIn.toNat)) (BitVec.ofNat 256 bought) ingredients before
      = .ok (frontrun.data, frontrun.value) after
  closes : ∃ before after, setup.backrunPayload false true (BitVec.ofNat 256 sold)
    (BitVec.ofNat 256 (encodeWeth amountOut.toNat)) ingredients before
      = .ok (backrun.data, backrun.value) after

section SanityCheck

variable {setup : Setup} {ingredients : RawIngredients} {state state' : State}

/-- A first segment is all there is. -/
theorem extend_empty {segment : List Byte × Word} {extended : Bundle}
    (ok : Bundle.extend ⟨[], 0⟩ segment state = .ok extended state') :
    segment = (extended.data, extended.value) := by
  obtain ⟨value, _, sum, ok⟩ := bind_eq_ok.mp ok
  obtain ⟨rfl, rfl⟩ := pure_eq_ok.mp ok
  have small : (0 : Word).toNat + segment.2.toNat < 2 ^ 256 := by
    simpa using segment.2.isLt
  rw [u256_of_lt small] at sum
  obtain ⟨rfl, rfl⟩ := pure_eq_ok.mp sum
  simp

/-- A frontrun of one pool looks for dust and buys what it decodes from a quote. -/
structure FrontrunFor (setup : Setup) (ingredients : RawIngredients) (spent quoted : Word)
    (bought : ℕ) (hasDust : Bool) (frontruns : Frontruns) : Prop where
  listed : frontruns.ingredients
    = [{ ingredients with targetPool := { ingredients.targetPool with hasDust } }]
  backrunIns : frontruns.backrunIns = [BitVec.ofNat 256 bought]
  decoded : decodeIntermediary ingredients quoted = some bought
  built : ∃ before after, setup.frontrunPayload false true spent (BitVec.ofNat 256 bought)
    { ingredients with targetPool := { ingredients.targetPool with hasDust } } before
      = .ok (frontruns.bundle.data, frontruns.bundle.value) after

theorem frontrunSegment_single {spent : Word} {frontruns : Frontruns}
    (ok : setup.frontrunSegment false 0 spent ingredients ⟨⟨[], 0⟩, [], []⟩ state
      = .ok frontruns state') :
    ∃ quoted bought hasDust, FrontrunFor setup ingredients spent quoted bought hasDust frontruns := by
  obtain ⟨_, _, -, ok⟩ := bind_eq_ok.mp ok
  obtain ⟨balance, _, -, ok⟩ := bind_eq_ok.mp ok
  obtain ⟨quoted, _, -, ok⟩ := bind_eq_ok.mp ok
  obtain ⟨bought, _, decoded, ok⟩ := bind_eq_ok.mp ok
  obtain ⟨_, _, -, ok⟩ := bind_eq_ok.mp ok
  obtain ⟨segment, _, built, ok⟩ := bind_eq_ok.mp ok
  obtain ⟨slice, _, extended, ok⟩ := bind_eq_ok.mp ok
  obtain ⟨rfl, rfl⟩ := pure_eq_ok.mp ok
  rw [extend_empty extended] at built
  exact ⟨quoted, bought, _, rfl, rfl, (ofOption_eq_ok.mp decoded).1, _, _, built⟩

theorem frontrunLoop_single {frontrunIns : List Word} {frontruns : Frontruns}
    (ok : setup.frontrunLoop false frontrunIns 0 [ingredients] ⟨⟨[], 0⟩, [], []⟩ state
      = .ok frontruns state') :
    frontruns.backrunIns = [] ∨ ∃ (amount quoted : Word) (bought : ℕ) (hasDust : Bool),
      BitVec.ofNat 256 (encodeWeth amount.toNat) ≠ (0 : Word)
        ∧ FrontrunFor setup ingredients (BitVec.ofNat 256 (encodeWeth amount.toNat)) quoted bought
          hasDust frontruns := by
  obtain ⟨amount, _, -, ok⟩ := bind_eq_ok.mp ok
  split at ok
  · obtain ⟨rfl, rfl⟩ := pure_eq_ok.mp ok
    exact .inl rfl
  · next nonzero =>
    obtain ⟨next, _, prepared, ok⟩ := bind_eq_ok.mp ok
    obtain ⟨rfl, rfl⟩ := pure_eq_ok.mp ok
    obtain ⟨quoted, bought, hasDust, buys⟩ := frontrunSegment_single prepared
    exact .inr ⟨amount, quoted, bought, hasDust, nonzero, buys⟩

theorem backrunSegment_single {backrunIns : List Word} {slice : Bundle}
    (ok : setup.backrunSegment false backrunIns 0 ingredients ⟨[], 0⟩ state = .ok slice state') :
    ∃ (backrunIn : Word) (sold : ℕ) (amount : Word), backrunIns[0]? = some backrunIn
      ∧ encodeIntermediaryToken ingredients backrunIn = some sold
      ∧ ∃ before after, setup.backrunPayload false true (BitVec.ofNat 256 sold)
        (BitVec.ofNat 256 (encodeWeth amount.toNat)) ingredients before
          = .ok (slice.data, slice.value) after := by
  obtain ⟨backrunIn, _, listed, ok⟩ := bind_eq_ok.mp ok
  obtain ⟨sold, _, dusted, ok⟩ := bind_eq_ok.mp ok
  obtain ⟨amount, _, -, ok⟩ := bind_eq_ok.mp ok
  obtain ⟨_, _, -, ok⟩ := bind_eq_ok.mp ok
  obtain ⟨segment, _, built, ok⟩ := bind_eq_ok.mp ok
  rw [extend_empty ok] at built
  exact ⟨backrunIn, sold, amount, (ofOption_eq_ok.mp listed).1, (ofOption_eq_ok.mp dusted).1, _, _,
    built⟩

/-- The recipe of a sanity check that ends with one pool. -/
theorem sanityCheck_single {balance : Word} {frontrunIns : List Word}
    {multiIngredients : List RawIngredients} {recipe : OptimalRecipe} {pool : TargetPool}
    (single : recipe.targetPools = [pool])
    (ok : setup.sanityCheck balance frontrunIns multiIngredients state = .ok recipe state') :
    ∃ ingredients amountIn quoted bought sold amountOut, multiIngredients = [ingredients]
      ∧ (∃ hasDust, pool = { ingredients.targetPool with hasDust })
      ∧ BuiltFor setup { ingredients with targetPool := pool } recipe.frontrun recipe.backrun amountIn
        quoted bought sold amountOut := by
  obtain ⟨frontruns, quoted, loop, ok⟩ := bind_eq_ok.mp ok
  obtain ⟨⟨frontrunGasUsed, frontrunAccessList⟩, opened, -, ok⟩ := bind_eq_ok.mp ok
  obtain ⟨goodMeats, committed, -, ok⟩ := bind_eq_ok.mp ok
  split at ok
  · obtain ⟨_, _, thrown, _⟩ := bind_eq_ok.mp ok
    exact absurd thrown throw_ne_ok
  obtain ⟨backrun, prepared, prepares, ok⟩ := bind_eq_ok.mp ok
  obtain ⟨⟨backrunGasUsed, backrunAccessList⟩, closed, -, ok⟩ := bind_eq_ok.mp ok
  obtain ⟨balance, read, -, ok⟩ := bind_eq_ok.mp ok
  obtain ⟨rfl, rfl⟩ := pure_eq_ok.mp ok
  obtain ⟨kept, -, -⟩ := (frontrunLoop_length _ _ _ _ _).of_ok trivial loop
  have one : multiIngredients.length = 1 := by
    have lengths := congrArg List.length single
    rw [List.length_map, List.length_singleton] at lengths
    rw [lengths] at kept
    simpa using kept.symm
  obtain ⟨ingredients, rfl⟩ := List.length_eq_one_iff.mp one
  have onlyOne : decide (1 < [ingredients].length) = false := rfl
  rw [onlyOne] at loop prepares
  dsimp only at single
  obtain nothing | ⟨amountIn, quoted, bought, hasDust, spends, buys⟩ := frontrunLoop_single loop
  · -- without an amount there is nothing to sell
    obtain ⟨only, listed, -⟩ := List.map_eq_singleton_iff.mp single
    rw [listed] at prepares
    obtain ⟨slice, _, segment, -⟩ := bind_eq_ok.mp prepares
    obtain ⟨backrunIn, sold, amountOut, first, -, -⟩ := backrunSegment_single segment
    rw [nothing] at first
    cases first
  · rw [buys.listed] at single prepares
    obtain rfl := List.singleton_inj.mp single
    obtain ⟨slice, _, segment, rest⟩ := bind_eq_ok.mp prepares
    obtain ⟨rfl, rfl⟩ := pure_eq_ok.mp rest
    obtain ⟨backrunIn, sold, amountOut, first, dusted, sells⟩ := backrunSegment_single segment
    rw [buys.backrunIns] at first
    obtain rfl := Option.some.inj first
    exact ⟨ingredients, amountIn, quoted, bought, sold, amountOut, rfl, ⟨hasDust, rfl⟩, spends,
      buys.decoded, dusted, buys.built, sells⟩

end SanityCheck

/-! ### Whole runs -/

/-- The payloads of a recipe for one pool are those of the builders, for its block. -/
def RecipeBuilt (config : Config) (nextBlock : TargetBlock) (recipe : OptimalRecipe) : Prop :=
  ∀ pool, recipe.targetPools = [pool] → ∃ (setup : Setup) (meats : List Meat) (amountIn quoted : Word)
    (bought sold : ℕ) (amountOut : Word), setup.blockNumber = nextBlock.number.setWidth 256
      ∧ setup.keccak = config.keccak256
      ∧ BuiltFor setup (rawIngredients pool meats getWethAddress) recipe.frontrun recipe.backrun amountIn
        quoted bought sold amountOut

/-- The ingredients of a pool stay its ingredients when dust is found. -/
theorem rawIngredients_withDust (pool : TargetPool) (meats : List Meat) (startToken : Address)
    (hasDust : Bool) :
    { rawIngredients pool meats startToken with
        targetPool := { (rawIngredients pool meats startToken).targetPool with hasDust } }
      = rawIngredients { pool with hasDust } meats startToken := by
  unfold rawIngredients
  split <;> rfl

/-- The transactions of a bundle are the payloads of its recipe, and those of a recipe for one pool are
what the builders gave. -/
theorem built_of_run {config : Config} {nonce : Word} {blockOracle : BlockOracle} {allPools : AllPools}
    {wethBalance : Word} {steps : List (Bot × BotEvent)} {last : Bot}
    (run : BotRun config (.new nonce blockOracle allPools wethBalance) steps last) {sent : Sent}
    (there : sent ∈ last.sent) :
    RecipeBuilt config sent.targetBlock sent.optimalSandwich
      ∧ ∃ frontrun backrun, sent.Signs config frontrun backrun
        ∧ (frontrun.data, frontrun.value)
          = (sent.optimalSandwich.frontrun.data, sent.optimalSandwich.frontrun.value)
        ∧ (backrun.data, backrun.value)
          = (sent.optimalSandwich.backrun.data, sent.optimalSandwich.backrun.value) := by
  have keeps : ∀ (state : Bot) event (after : Bot), state.All config (RecipeBuilt config) →
      state.next config event = some after → after.All config (RecipeBuilt config) := by
    intro state event after all taken
    refine all_step all ?_ taken
    intro backend revenue nextBlock balance multiIngredients recipe _ listed found pool single
    obtain ⟨-, kept, frontrunIns, final, sublist, run⟩ := createOptimalSandwich_eq_some found
    obtain ⟨ingredients, amountIn, quoted, bought, sold, amountOut, rfl, ⟨hasDust, rfl⟩, built⟩ :=
      sanityCheck_single single run
    obtain ⟨target, meats, rfl⟩ := listed ingredients (sublist.subset List.mem_cons_self)
    rw [rawIngredients_withDust] at built
    refine ⟨⟨backend, nextBlock.toBlockInfo, config.keccak256, config.maker.searcherWallet,
      config.maker.sandwichAddress⟩, meats, amountIn, quoted, bought, sold, amountOut, rfl, rfl, ?_⟩
    rwa [targetPool_rawIngredients]
  have all := (run.invariant (all_new config _ nonce blockOracle allPools wethBalance) keeps).1
  obtain ⟨recipeBuilt, random, sends⟩ := all.sent sent there
  exact ⟨recipeBuilt, signs_of_send sends⟩

end Sando.Runner
