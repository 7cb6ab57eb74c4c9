/-
What the bundles do on chain.

A sandwich of one pool starts with a victim of the mempool and ends in two payloads, which the contract
executes. Behind the whole way, through the simulation, the recipe and the bundle, the contract still does
on a V2 pair what the bot had in mind (`bundles_performed`): it pays the pair a rounded amount of WETH and
takes the rounded quote, and later it pays the pair what it has got, but for some dust, and takes WETH. On
a V3 pool the two swaps are right as well, but the frontrun hands the pool a hash that is read one byte
early, so that the callback pays the pool only when it is the pool of that hash (`bundles_performed_v3`).
-/

import Sando.RoundTrip.Amounts
import Sando.Runner.Single

namespace Sando.Runner

open Sando.Evm Sando.Evm.Context Sando.Huff Sando.TxBuilder Sando.Simulate Sando.Program Sando.StateDiff
open Sando.RoundTrip (Makes Completes Sends WethPool fifthByte byteShift_eq_log frontrunSwap backrunSwap
  input_memOffset backrun_completes frontrun_makes v3_backrun_makes callvalue_lt encodeWeth_eq toNat_encodeWeth
  v2_decodeIntermediary_eq v2_encodeIntermediaryToken_eq)

/-! ### A pair -/

section Pair

variable {number amountIn amountOut : Word} {otherToken : Address} {pair : Pool}
  {encoded : EncodedSwapValue} {payload : List Byte} {value : Word}

/-- The contract pays what the call value says and takes what the payload holds. -/
theorem frontrun_completes
    (found : V2.encodeFourBytes amountOut.toNat true (getWethAddress < otherToken) = some encoded)
    (built : V2.createPayloadWethIsInput number amountIn amountOut otherToken pair
      = some (payload, value)) :
    payload.length < 2 ^ 256
      ∧ Completes number payload value fun self => v2Frontrun self pair.address
        (getWethAddress < otherToken) (encodeWeth amountIn.toNat) encoded.decode := by
  obtain ⟨short, -, fits, -, -⟩ := V2.encodeFourBytes_spec found
  have place := input_memOffset found
  have low : encoded.memOffset ≤ 0x40 := by
    rw [otherOffset] at place
    split at place <;> omega
  obtain ⟨rfl, rfl⟩ := Prod.mk.inj (Option.some.inj ((V2.createPayloadWethIsInput_eq found).symm.trans built))
  refine ⟨by simp, ?_⟩
  intro world message sends
  have label : (message.data 1).toNat = 0x30 := sends.label (by norm_num)
  have offset : (message.data 2).toNat = encoded.memOffset := by
    rw [sends.data_eq, ← window_one]
    simp (disch := simp) only [window_append_right, length_bigEndian, Nat.reduceSub]
    exact window_field (by omega)
  have address : addressAt message.data 3 = pair.address := by
    rw [sends.data_eq]
    simp (disch := simp) only [addressAt_append_right, length_bigEndian, Nat.reduceSub]
    exact addressAt_bigEndian _
  have field : window message.data 0x17 32 = encoded.encodedValue * 256 ^ 28 := by
    rw [sends.data_eq]
    simp (disch := simp) only [window_append_right, length_bigEndian, Nat.reduceSub]
    exact window_last_field (by omega) (by norm_num)
  have spent : message.callvalue.toNat % 2 ^ 224 * 2 ^ 32 = encodeWeth amountIn.toNat := by
    rw [sends.callvalue, Nat.mod_eq_of_lt (callvalue_lt amountIn), encodeWeth_eq]
  refine single_executes .v2InputSingle sends.authorised label fun behind =>
    v2InputSingle_attempts field (offset ▸ place) (by omega) ?_
  rw [address, spent, EncodedSwapValue.decode_eq]

end Pair

/-- The token of a pool that is not WETH. -/
def otherToken (pool : TargetPool) : Address := (rawIngredients pool [] getWethAddress).intermediaryToken

/-- What the contract does with the two payloads: it pays the pair `spent` WETH and takes `bought`, and it
pays `sold` of these and takes WETH, with what the low bytes of the sold amount leave in memory. -/
structure Sandwiches (number : Word) (pool : TargetPool) (frontrun backrun : List Byte × Word)
    (spent bought sold taken : ℕ) : Prop where
  opens : Completes number frontrun.1 frontrun.2 fun self =>
    v2Frontrun self pool.address (getWethAddress < otherToken pool) spent bought
  closes : Completes number backrun.1 backrun.2 fun self =>
    v2Backrun self pool.address (otherToken pool) (getWethAddress < otherToken pool) sold
      (taken + if getWethAddress < otherToken pool then 0 else sold % 2 ^ 32)
  spends : 0 < spent
  sells : sold < bought
  rounds : 2 ^ 32 ∣ spent ∧ 2 ^ 32 ∣ taken
  fits : spent < 2 ^ 256 ∧ bought < 2 ^ 256 ∧ taken < 2 ^ 256
  short : frontrun.1.length < 2 ^ 256 ∧ backrun.1.length < 2 ^ 256

section Built

variable {setup : Setup} {pool : TargetPool} {meats : List Meat} {frontrun backrun : Bundle}
  {amountIn quoted amountOut : Word} {bought sold : ℕ}

theorem intermediaryToken_rawIngredients (pool : TargetPool) (meats : List Meat) :
    (rawIngredients pool meats getWethAddress).intermediaryToken = otherToken pool := by
  unfold otherToken rawIngredients
  split <;> rfl

theorem encodeWeth_pos (spends : BitVec.ofNat 256 (encodeWeth amountIn.toNat) ≠ (0 : Word)) :
    0 < encodeWeth amountIn.toNat := by
  refine Nat.pos_of_ne_zero fun nothing => spends ?_
  rw [nothing]
  rfl

/-- The amounts that the payloads were built for are what the contract reads. -/
theorem BuiltFor.sandwiches (variant : pool.poolVariant = .uniswapV2)
    (built : BuiltFor setup (rawIngredients pool meats getWethAddress) frontrun backrun amountIn quoted
      bought sold amountOut) :
    Sandwiches setup.blockNumber pool (frontrun.data, frontrun.value) (backrun.data, backrun.value)
      (encodeWeth amountIn.toNat) bought sold (encodeWeth amountOut.toNat) := by
  have decoded := built.decoded
  rw [decodeIntermediary, targetPool_rawIngredients, intermediaryToken_rawIngredients] at decoded
  simp only [variant] at decoded
  rw [v2_decodeIntermediary_eq] at decoded
  have dusted := built.dusted
  rw [encodeIntermediaryToken, targetPool_rawIngredients, intermediaryToken_rawIngredients] at dusted
  simp only [variant] at dusted
  rw [v2_encodeIntermediaryToken_eq] at dusted
  obtain ⟨_, _, opens⟩ := built.opens
  rw [Setup.frontrunPayload, targetPool_rawIngredients, intermediaryToken_rawIngredients] at opens
  simp only [variant] at opens
  have opens := (ofOption_eq_ok.mp opens).1
  obtain ⟨_, _, closes⟩ := built.closes
  rw [Setup.backrunPayload, targetPool_rawIngredients, intermediaryToken_rawIngredients] at closes
  simp only [variant] at closes
  have closes := (ofOption_eq_ok.mp closes).1
  obtain ⟨boughtWord, soldWord, sells⟩ := sells_of_quote _ decoded dusted
  obtain ⟨front, foundFront, -⟩ := Option.bind_eq_some_iff.mp opens
  obtain ⟨back, foundBack, -⟩ := Option.bind_eq_some_iff.mp closes
  obtain ⟨short, buys⟩ := frontrun_completes foundFront opens
  obtain ⟨payload, value, returned, shortBack, pays⟩ := backrun_completes setup.blockNumber (BitVec.ofNat 256 sold)
    (BitVec.ofNat 256 (encodeWeth amountOut.toNat)) (otherToken pool) pool.toPool foundBack
  obtain ⟨rfl, rfl⟩ := Prod.mk.inj (Option.some.inj (closes.symm.trans returned))
  -- what the two payloads hold are the amounts themselves
  rw [boughtWord] at foundFront
  rw [soldWord] at foundBack
  have first := sells.buys front ((V2.fourBytes true (getWethAddress < otherToken pool)).encodes foundFront)
  have second := sells.sells back ((V2.fourBytes false (getWethAddress < otherToken pool)).encodes foundBack)
  rw [toNat_encodeWeth, encodeWeth_encodeWeth, first] at buys
  rw [toNat_encodeWeth, encodeWeth_encodeWeth, second] at pays
  exact ⟨buys, pays, encodeWeth_pos built.spends, sells.less,
    ⟨Nat.dvd_mul_left _ _, Nat.dvd_mul_left _ _⟩,
    ⟨encodeWeth_le.trans_lt amountIn.isLt, boughtWord ▸ (BitVec.ofNat 256 bought).isLt,
      encodeWeth_le.trans_lt amountOut.isLt⟩, short, shortBack⟩

end Built

/-- Events that can be evaluated have a run, and what is seen of all its bundles is seen of each. -/
theorem exists_run_of_seen {config : Config} {start : Bot} {events : List BotEvent} {α : Type}
    {view : Sent → α} {count : ℕ} {one : α}
    (seen : (events.foldlM (Bot.next config) start).map (fun last => last.sent.map view)
      = some (List.replicate count one)) :
    ∃ steps last, BotRun config start steps last ∧ last.sent.length = count
      ∧ ∀ sent ∈ last.sent, view sent = one := by
  obtain ⟨last, taken, seen⟩ := Option.map_eq_some_iff.mp seen
  obtain ⟨steps, -, run⟩ := Run.exists_of_foldlM (Bot.next config) start last _ taken
  obtain ⟨length, same⟩ := List.eq_replicate_iff.mp seen
  rw [List.length_map] at length
  exact ⟨steps, last, run, length, fun sent there => same _ (List.mem_map_of_mem there)⟩

/-- Whatever happens in a run, the transactions of every bundle for one V2 pair make the contract perform a
sandwich of that pair, and nothing else. -/
theorem bundles_performed (config : Config) (nonce : Word) (blockOracle : BlockOracle)
    (allPools : AllPools) (wethBalance : Word) (steps : List (Bot × BotEvent)) (last : Bot)
    (run : BotRun config (.new nonce blockOracle allPools wethBalance) steps last) :
    ∀ sent ∈ last.sent, ∀ pool, sent.optimalSandwich.targetPools = [pool] →
      pool.poolVariant = .uniswapV2 → ∃ frontrun backrun spent bought sold taken,
        sent.Signs config frontrun backrun
          ∧ Sandwiches (sent.targetBlock.number.setWidth 256) pool (frontrun.data, frontrun.value)
            (backrun.data, backrun.value) spent bought sold taken := by
  intro sent there pool single variant
  obtain ⟨recipeBuilt, frontrun, backrun, signs, front, back⟩ := built_of_run run there
  obtain ⟨setup, meats, amountIn, quoted, bought, sold, amountOut, number, -, built⟩ :=
    recipeBuilt pool single
  have performs := built.sandwiches variant
  rw [number, ← front, ← back] at performs
  exact ⟨frontrun, backrun, _, bought, sold, _, signs, performs⟩

theorem bundles_performed_timely : ∃ last : Bot, last.sent.length = 2 ∧ ∀ sent ∈ last.sent,
    ∃ pool frontrun backrun spent bought sold taken, sent.optimalSandwich.targetPools = [pool]
      ∧ sent.Signs plainConfig frontrun backrun
      ∧ Sandwiches (sent.targetBlock.number.setWidth 256) pool (frontrun.data, frontrun.value)
        (backrun.data, backrun.value) spent bought sold taken := by
  have variants : (timelyEvents.foldlM (Bot.next plainConfig) cheapBot).map
      (fun last => last.sent.map fun sent => sent.optimalSandwich.targetPools.map (·.poolVariant))
      = some (List.replicate 2 [.uniswapV2]) := by decide +kernel
  obtain ⟨steps, last, run, length, seen⟩ := exists_run_of_seen variants
  refine ⟨last, length, fun sent there => ?_⟩
  obtain ⟨pool, single, variant⟩ := List.map_eq_singleton_iff.mp (seen sent there)
  obtain ⟨frontrun, backrun, spent, bought, sold, taken, performs⟩ :=
    bundles_performed plainConfig 0 _ twoPairs 0 steps last run sent there pool single variant
  exact ⟨pool, frontrun, backrun, spent, bought, sold, taken, single, performs⟩

/-! ### A V3 pool -/

/-- A hash that is read one byte early: the last byte of the packed amount is in front, and its own last
byte is lost. -/
def misreadHash (poolKeyHash : Word) (bought : ℕ) : Word :=
  BitVec.ofNat 256 ((fifthByte bought).toNat * 256 ^ 31 + poolKeyHash.toNat / 256)

section Swaps

variable (keccak : List Byte → Word) (pool : WethPool)

/-- The swap of a frontrun. -/
def openingSwap (spent bought : ℕ) : V3Swap where
  pool := pool.address
  zeroForOne := pool.isWethToken0
  amountSpecified :=
    if pool.isWethToken0 then 0 - BitVec.ofNat 256 bought else BitVec.ofNat 256 spent
  token := getWethAddress
  poolKeyHash := misreadHash (V3.poolKeyHash keccak pool.toPool) bought

/-- The swap of a backrun. -/
def closingSwap (sold taken : ℕ) : V3Swap where
  pool := pool.address
  zeroForOne := !pool.isWethToken0
  amountSpecified := if pool.isWethToken0 then BitVec.ofNat 256 sold else 0 - BitVec.ofNat 256 taken
  token := pool.other
  poolKeyHash := V3.poolKeyHash keccak pool.toPool

/-- A pool that hands the data of a swap back is paid when it is the pool of the hash that it was sent, and
nothing happens otherwise. -/
def Answers (swap : V3Swap) : Prop :=
  ∀ world message self delta0 delta1, world.keccak = keccak → message.caller = swap.pool →
    message.CallsBack (swap.input self) delta0 delta1 → ∃ halt, (sandwich world message).Executes ⟨halt,
      if IsPoolOf factories keccak swap.pool swap.poolKeyHash then
        [erc20Transfer swap.token swap.pool (if swap.zeroForOne then delta0 else delta1).toNat]
      else []⟩

/-- What the contract does with the two payloads: one swap each, of which the first one buys what the
second one sells, and the callback of each. -/
structure SwapsV3 (number : Word) (frontrun backrun : List Byte × Word) (spent bought sold taken : ℕ) :
    Prop where
  opens : Makes number frontrun.1 frontrun.2 fun self => [(openingSwap keccak pool spent bought).call self]
  closes : Makes number backrun.1 backrun.2 fun self => [(closingSwap keccak pool sold taken).call self]
  spends : 0 < spent
  sells : sold < bought
  rounds : 2 ^ 32 ∣ spent ∧ 2 ^ 32 ∣ taken
  opening : Answers keccak (openingSwap keccak pool spent bought)
  closing : Answers keccak (closingSwap keccak pool sold taken)

end Swaps

section BuiltV3

variable {setup : Setup} {pool : TargetPool} {wethPool : WethPool} {meats : List Meat}
  {frontrun backrun : Bundle} {amountIn quoted amountOut : Word} {bought sold : ℕ}

theorem answers (keccak : List Byte → Word) (swap : V3Swap) : Answers keccak swap := by
  rintro world message self delta0 delta1 rfl caller callsBack
  by_cases deployed : IsPoolOf factories world.keccak swap.pool swap.poolKeyHash
  · rw [if_pos deployed, ← caller]
    rw [← caller] at deployed
    exact callsBack_executes callsBack deployed
  · rw [if_neg deployed]
    rw [← caller] at deployed
    exact callsBack_refused callsBack deployed

/-- A word that starts one byte early. -/
theorem wordAt_early (bytes : ℕ → Byte) (offset : ℕ) :
    wordAt bytes offset
      = BitVec.ofNat 256 ((bytes offset).toNat * 256 ^ 31 + (wordAt bytes (offset + 1)).toNat / 256) := by
  have early : (wordAt bytes offset).toNat
      = (bytes offset).toNat * 256 ^ 31 + window bytes (offset + 1) 31 := by
    rw [toNat_wordAt, window_add bytes offset 1 31, window_one]
  have late : (wordAt bytes (offset + 1)).toNat / 256 = window bytes (offset + 1) 31 := by
    have last := (bytes (offset + 1 + 31)).isLt
    rw [toNat_wordAt, window]
    omega
  rw [late, ← early, BitVec.ofNat_toNat, BitVec.setWidth_eq]

theorem tokens_rawIngredients (meats : List Meat) (same : pool.toPool = wethPool.toPool) :
    (rawIngredients pool meats getWethAddress).startendToken = getWethAddress
      ∧ (rawIngredients pool meats getWethAddress).intermediaryToken = wethPool.other := by
  have first : pool.token0 = wethPool.token0 := congrArg Pool.token0 same
  have second : pool.token1 = wethPool.token1 := congrArg Pool.token1 same
  have sorted := wethPool.sorted
  unfold rawIngredients
  rcases wethPool.sides with ⟨-, weth, other⟩ | ⟨-, weth, other⟩
  · have apart : getWethAddress ≠ pool.token1 := by
      rw [second, ← weth]
      exact fun equal => BitVec.lt_irrefl _ (equal ▸ sorted)
    rw [if_neg apart, other]
    exact ⟨first.trans weth, second⟩
  · have last : getWethAddress = pool.token1 := (second.trans weth).symm
    rw [if_pos last, other]
    exact ⟨last.symm, first⟩

theorem asU128_eq_ok {value word : Word} {before after : State}
    (ok : asU128 value before = .ok word after) : value.toNat < 2 ^ 128 ∧ word = value := by
  unfold asU128 at ok
  split at ok
  · next small =>
    exact ⟨small, (pure_eq_ok.mp ok).1.symm⟩
  · exact absurd ok throw_ne_ok

/-- The two payloads for a V3 pool, whose amounts have 128 bits. -/
theorem BuiltFor.payloadsV3 (variant : pool.poolVariant = .uniswapV3)
    (same : pool.toPool = wethPool.toPool)
    (built : BuiltFor setup (rawIngredients pool meats getWethAddress) frontrun backrun amountIn quoted
      bought sold amountOut) :
    ((BitVec.ofNat 256 (encodeWeth amountIn.toNat)).toNat < 2 ^ 128
      ∧ (BitVec.ofNat 256 bought).toNat < 2 ^ 128
      ∧ V3.createPayloadWethIsInput setup.keccak setup.blockNumber
          (BitVec.ofNat 256 (encodeWeth amountIn.toNat)) (BitVec.ofNat 256 bought) getWethAddress
          wethPool.other wethPool.toPool = some (frontrun.data, frontrun.value))
    ∧ ((BitVec.ofNat 256 sold).toNat < 2 ^ 128
      ∧ (BitVec.ofNat 256 (encodeWeth amountOut.toNat)).toNat < 2 ^ 128
      ∧ V3.createPayloadWethIsOutput setup.keccak setup.blockNumber (BitVec.ofNat 256 sold)
          (BitVec.ofNat 256 (encodeWeth amountOut.toNat)) wethPool.other getWethAddress wethPool.toPool
          = some (backrun.data, backrun.value)) := by
  obtain ⟨starts, ends⟩ := tokens_rawIngredients meats same
  constructor
  · obtain ⟨_, _, opens⟩ := built.opens
    rw [Setup.frontrunPayload, targetPool_rawIngredients, starts, ends, same] at opens
    simp only [variant] at opens
    obtain ⟨spent, _, casts, opens⟩ := bind_eq_ok.mp opens
    obtain ⟨smallSpent, rfl⟩ := asU128_eq_ok casts
    obtain ⟨taken, _, casts, opens⟩ := bind_eq_ok.mp opens
    obtain ⟨smallBought, rfl⟩ := asU128_eq_ok casts
    exact ⟨smallSpent, smallBought, (ofOption_eq_ok.mp opens).1⟩
  · obtain ⟨_, _, closes⟩ := built.closes
    rw [Setup.backrunPayload, targetPool_rawIngredients, starts, ends, same] at closes
    simp only [variant] at closes
    obtain ⟨given, _, casts, closes⟩ := bind_eq_ok.mp closes
    obtain ⟨smallSold, rfl⟩ := asU128_eq_ok casts
    obtain ⟨taken, _, casts, closes⟩ := bind_eq_ok.mp closes
    obtain ⟨smallTaken, rfl⟩ := asU128_eq_ok casts
    exact ⟨smallSold, smallTaken, (ofOption_eq_ok.mp closes).1⟩

/-- The amounts that the payloads were built for are what the contract reads. -/
theorem BuiltFor.swapsV3 (variant : pool.poolVariant = .uniswapV3) (same : pool.toPool = wethPool.toPool)
    (built : BuiltFor setup (rawIngredients pool meats getWethAddress) frontrun backrun amountIn quoted
      bought sold amountOut) :
    SwapsV3 setup.keccak wethPool setup.blockNumber (frontrun.data, frontrun.value)
      (backrun.data, backrun.value) (encodeWeth amountIn.toNat) bought sold
      (encodeWeth amountOut.toNat) := by
  obtain ⟨⟨smallSpent, smallBought, opens⟩, smallSold, smallTaken, closes⟩ := built.payloadsV3 variant same
  have decoded := built.decoded
  rw [decodeIntermediary, targetPool_rawIngredients] at decoded
  simp only [variant] at decoded
  have dusted := built.dusted
  rw [encodeIntermediaryToken, targetPool_rawIngredients] at dusted
  simp only [variant] at dusted
  obtain ⟨boughtWord, soldWord, sells⟩ := sells_of_quote (V3.numBytes 5 (by norm_num)) decoded dusted
  obtain ⟨front, foundFront⟩ := V3.encodeNumBytes_isSome (by norm_num : 4 ≤ 5) smallBought
  obtain ⟨back, foundBack⟩ := V3.encodeNumBytes_isSome (by norm_num : 4 ≤ 5) smallSold
  obtain ⟨payload, value, returned, -, hash, before, buys⟩ := frontrun_makes setup.keccak
    setup.blockNumber wethPool smallSpent smallBought foundFront
  obtain ⟨rfl, rfl⟩ := Prod.mk.inj (Option.some.inj (opens.symm.trans returned))
  obtain ⟨payload, value, returned, pays⟩ := v3_backrun_makes setup.keccak setup.blockNumber wethPool
    smallSold smallTaken foundBack
  obtain ⟨rfl, rfl⟩ := Prod.mk.inj (Option.some.inj (closes.symm.trans returned))
  -- what the two payloads hold are the amounts themselves
  rw [boughtWord] at foundFront
  rw [soldWord] at foundBack
  have first := sells.buys front ((V3.numBytes 5 (by norm_num)).encodes foundFront)
  have second := sells.sells back ((V3.numBytes 5 (by norm_num)).encodes foundBack)
  obtain ⟨-, quotient, -, -⟩ := V3.encodeNumBytes_spec foundFront
  have misread : wordAt (byteAt frontrun.data) 0x1b
      = misreadHash (V3.poolKeyHash setup.keccak wethPool.toPool) bought := by
    rw [wordAt_early, hash, before, misreadHash, fifthByte, ← byteShift_eq_log foundFront, ← quotient]
  have opening : { frontrunSwap setup.keccak (BitVec.ofNat 256 (encodeWeth amountIn.toNat)) front wethPool
        with poolKeyHash := wordAt (byteAt frontrun.data) 0x1b }
      = openingSwap setup.keccak wethPool (encodeWeth amountIn.toNat) bought := by
    rw [misread, frontrunSwap, toNat_encodeWeth, encodeWeth_encodeWeth, first]
    rfl
  have closing : backrunSwap setup.keccak (BitVec.ofNat 256 (encodeWeth amountOut.toNat)) back wethPool
      = closingSwap setup.keccak wethPool sold (encodeWeth amountOut.toNat) := by
    rw [backrunSwap, toNat_encodeWeth, encodeWeth_encodeWeth, second]
    rfl
  rw [opening] at buys
  rw [closing] at pays
  exact ⟨buys, pays, encodeWeth_pos built.spends, sells.less,
    ⟨Nat.dvd_mul_left _ _, Nat.dvd_mul_left _ _⟩, answers _ _, answers _ _⟩

end BuiltV3

/-- Whatever happens in a run, the transactions of every bundle for one V3 pool of WETH make the contract
swap there once each, with the callback of each swap. -/
theorem bundles_performed_v3 (config : Config) (nonce : Word) (blockOracle : BlockOracle)
    (allPools : AllPools) (wethBalance : Word) (steps : List (Bot × BotEvent)) (last : Bot)
    (run : BotRun config (.new nonce blockOracle allPools wethBalance) steps last) :
    ∀ sent ∈ last.sent, ∀ pool, sent.optimalSandwich.targetPools = [pool] →
      pool.poolVariant = .uniswapV3 → ∀ wethPool : WethPool, pool.toPool = wethPool.toPool →
        ∃ frontrun backrun spent bought sold taken, sent.Signs config frontrun backrun
          ∧ SwapsV3 config.keccak256 wethPool (sent.targetBlock.number.setWidth 256)
            (frontrun.data, frontrun.value) (backrun.data, backrun.value) spent bought sold taken := by
  intro sent there pool single variant wethPool same
  obtain ⟨recipeBuilt, frontrun, backrun, signs, front, back⟩ := built_of_run run there
  obtain ⟨setup, meats, amountIn, quoted, bought, sold, amountOut, number, keccak, built⟩ :=
    recipeBuilt pool single
  have swaps := built.swapsV3 variant same
  rw [number, keccak, ← front, ← back] at swaps
  exact ⟨frontrun, backrun, _, bought, sold, _, signs, swaps⟩

/-- The pair of USDC, with WETH last. -/
def usdcWethPool : WethPool where
  toPool := usdcPair.toPool
  sorted := by decide
  hasWeth := .inr rfl

def isUsdcPool (variant : PoolVariant) (pool : TargetPool) : Bool :=
  pool.poolVariant = variant ∧ pool.address = usdcWethPool.address ∧ pool.token0 = usdcWethPool.token0
    ∧ pool.token1 = usdcWethPool.token1 ∧ pool.swapFee = usdcWethPool.swapFee

theorem isUsdcPool_iff {variant : PoolVariant} {pool : TargetPool} :
    isUsdcPool variant pool = true ↔ pool.poolVariant = variant ∧ pool.toPool = usdcWethPool.toPool := by
  obtain ⟨⟨address, token0, token1, swapFee⟩, kind, hasDust⟩ := pool
  rw [isUsdcPool, decide_eq_true_iff]
  constructor
  · rintro ⟨rfl, rfl, rfl, rfl, rfl⟩
    exact ⟨rfl, rfl⟩
  · rintro ⟨rfl, same⟩
    exact ⟨rfl, congrArg Pool.address same, congrArg Pool.token0 same, congrArg Pool.token1 same,
      congrArg Pool.swapFee same⟩

/-- A bot that knows a V3 pool in the place of that pair. -/
def v3Bot : Bot := .new 0 cheapBot.latestBlockOracle (fun address =>
  if address = usdcWethPool.address then some ⟨usdcWethPool.toPool, .uniswapV3, false⟩ else none) 0

theorem bundles_performed_v3_usdc : ∃ last : Bot, last.sent.length = 2 ∧ ∀ sent ∈ last.sent,
    ∃ pool frontrun backrun spent bought sold taken, sent.optimalSandwich.targetPools = [pool]
      ∧ sent.Signs plainConfig frontrun backrun
      ∧ SwapsV3 plainConfig.keccak256 usdcWethPool (sent.targetBlock.number.setWidth 256)
        (frontrun.data, frontrun.value) (backrun.data, backrun.value) spent bought sold taken := by
  have known : (timelyEvents.foldlM (Bot.next plainConfig) v3Bot).map
      (fun last => last.sent.map fun sent => sent.optimalSandwich.targetPools.map (isUsdcPool .uniswapV3))
      = some (List.replicate 2 [true]) := by decide +kernel
  obtain ⟨steps, last, run, length, seen⟩ := exists_run_of_seen known
  refine ⟨last, length, fun sent there => ?_⟩
  obtain ⟨pool, single, usdc⟩ := List.map_eq_singleton_iff.mp (seen sent there)
  obtain ⟨variant, same⟩ := isUsdcPool_iff.mp usdc
  obtain ⟨frontrun, backrun, spent, bought, sold, taken, swaps⟩ :=
    bundles_performed_v3 plainConfig 0 _ _ 0 steps last run sent there pool single variant usdcWethPool
      same
  exact ⟨pool, frontrun, backrun, spent, bought, sold, taken, single, swaps⟩

end Sando.Runner
