/-
Which pool is quoted.

The payload of a V3 swap names its pool by address, and the quote names it by its two tokens and its
fee: the quoter asks the pool that the Uniswap factory deploys for them. `Fork` is a backend whose
quoter does so, and `QuotesItself` says that every amount out is the quote of the pool that is traded,
in whatever state the pools are. It holds exactly for the pools of the Uniswap factory
(`quotesItself_iff`), and the indexer finds those of two more factories.
-/

import Sando.Cfmm.Dex
import Sando.Huff.Callback
import Sando.Runner.BundleSender

namespace Sando.Cfmm

open Sando.Evm Sando.Program Sando.Huff Sando.TxBuilder Sando.Simulate Sando.Runner

/-! ### The quoter -/

/-- The pool that the quoter asks: the one of the Uniswap factory with these tokens and this fee. -/
def quotedPool (keccak : List Byte → Word) (tokenA tokenB : Address) (fee : Word) : Address :=
  let tokens := if tokenB < tokenA then (tokenB, tokenA) else (tokenA, tokenB)
  poolAddress keccak uniswapFactory
    (keccak (encodeWords [tokens.1.toNat, tokens.2.toNat, fee.toNat]))

/-- What a pool in some state gives for an exact input: a direction, an amount and a price limit. It
is an amount out or the reason of a revert. -/
abbrev ExactInput (PoolState : Type) := PoolState → Bool → Word → Word → Except (List Byte) Word

/-- The quote depends on the state of the pool, in both directions. -/
def Informative {PoolState : Type} (exactInput : ExactInput PoolState) : Prop :=
  ∀ zeroForOne, ∃ amountIn first second,
    exactInput first zeroForOne amountIn (getSqrtPriceLimitX96 zeroForOne)
      ≠ exactInput second zeroForOne amountIn (getSqrtPriceLimitX96 zeroForOne)

/-- The quote that is sent to a caller, with some gas used. -/
def Gives (answer : Answer) : Except (List Byte) Word → Prop
  | .ok amountOut => ∃ gasUsed, answer = .success (bigEndian 32 amountOut.toNat) gasUsed
  | .error reason => ∃ gasUsed, answer = .revert reason gasUsed

/-- What `quoteExactInputSingle` gives for its calldata. -/
def quoteExactInputSingle {PoolState : Type} (keccak : List Byte → Word)
    (exactInput : ExactInput PoolState) (pools : Address → PoolState) (input : List Byte) :
    Except (List Byte) Word :=
  let tokenIn : Address := BitVec.ofNat 160 (argument input 0)
  let tokenOut : Address := BitVec.ofNat 160 (argument input 1)
  let fee : Word := BitVec.ofNat 256 (argument input 2)
  exactInput (pools (quotedPool keccak tokenIn tokenOut fee)) (tokenIn < tokenOut)
    (BitVec.ofNat 256 (argument input 3)) (BitVec.ofNat 256 (argument input 4))

/-- A forked EVM with the quoter on it. The pools are in some state behind every history. -/
structure Fork {PoolState : Type} (exactInput : ExactInput PoolState) extends Setup where
  pools : List Ran → Address → PoolState
  quotes : ∀ history ran, ran.tx.transactTo = getUniswapV3QuoterAddress →
    ran.tx.data.take 4 = bigEndian 4 0xf7729d43 →
    Gives (backend.answer (history ++ [ran]))
      (quoteExactInputSingle keccak exactInput (pools history) ran.tx.data)

/-! ### The quote of an ingredient -/

/-- The tokens of a frontrun or a backrun. -/
def tokens (ingredients : RawIngredients) (isFrontrun : Bool) : Address × Address :=
  if isFrontrun then (ingredients.startendToken, ingredients.intermediaryToken)
  else (ingredients.intermediaryToken, ingredients.startendToken)

/-- What the simulation gets for an amount out. -/
def amountOut (setup : Setup) (ingredients : RawIngredients) (isFrontrun : Bool) (amountIn : Word)
    (state : State) : Except Failure Word :=
  match setup.getAmountOut ingredients.targetPool amountIn (tokens ingredients isFrontrun).1
    (tokens ingredients isFrontrun).2 state with
  | .ok amount _ => .ok amount
  | .error failure _ => .error failure

/-- What the simulation makes of a quote. -/
def received (quote : Except (List Byte) Word) : Except Failure Word :=
  quote.mapError fun reason => .error (.evmReverted reason)

/-- Every amount out is the quote of the pool that is traded. -/
def QuotesItself {PoolState : Type} (keccak : List Byte → Word) (exactInput : ExactInput PoolState)
    (ingredients : RawIngredients) : Prop :=
  ∀ (fork : Fork exactInput) (isFrontrun : Bool) (amountIn : Word) (state : State),
    fork.keccak = keccak →
    amountOut fork.toSetup ingredients isFrontrun amountIn state
      = received (exactInput (fork.pools state.ran ingredients.targetPool.address)
          ((tokens ingredients isFrontrun).1 < (tokens ingredients isFrontrun).2) amountIn
          (getSqrtPriceLimitX96
            ((tokens ingredients isFrontrun).1 < (tokens ingredients isFrontrun).2)))

section Quote

variable {PoolState : Type} {keccak : List Byte → Word} {exactInput : ExactInput PoolState}

/-- The quoter finds in its calldata what it was sent. -/
theorem quoteExactInputSingle_encodeCall (pools : Address → PoolState) (tokenIn tokenOut : Address)
    (fee amountIn limit : Word) :
    quoteExactInputSingle keccak exactInput pools (encodeCall 0xf7729d43
        [tokenIn.toNat, tokenOut.toNat, fee.toNat, amountIn.toNat, limit.toNat])
      = exactInput (pools (quotedPool keccak tokenIn tokenOut fee)) (tokenIn < tokenOut) amountIn
          limit := by
  generalize listed : [tokenIn.toNat, tokenOut.toNat, fee.toNat, amountIn.toNat, limit.toNat] = words
  have small : ∀ word ∈ words, word < 256 ^ 32 := by
    have address (account : Address) : account.toNat < 256 ^ 32 :=
      lt_trans account.isLt (by norm_num)
    have whole (word : Word) : word.toNat < 256 ^ 32 := lt_of_lt_of_eq word.isLt (by norm_num)
    simp only [← listed, List.forall_mem_cons]
    exact ⟨address _, address _, whole _, whole _, whole _, by simp⟩
  have read (index : ℕ) (inside : index < words.length) :
      argument (encodeCall 0xf7729d43 words) index = words[index] := by
    have found := @argument_encodeCall 0xf7729d43 index words [] inside
      (small _ (List.getElem_mem inside))
    rwa [List.append_nil] at found
  subst listed
  simp only [quoteExactInputSingle, read 0 (by simp), read 1 (by simp), read 2 (by simp),
    read 3 (by simp), read 4 (by simp), List.getElem_cons_zero, List.getElem_cons_succ,
    BitVec.ofNat_toNat, BitVec.setWidth_eq]

/-- The quote of a fork, from the environment on. -/
theorem getAmountOutEvmV3_eq (fork : Fork exactInput) (amountIn : Word) (tokenIn tokenOut : Address)
    (swapFee : Word) (state : State) : ∃ last,
    fork.toSetup.getAmountOutEvmV3 amountIn tokenIn tokenOut swapFee state
      = match received (exactInput (fork.pools state.ran
            (quotedPool fork.keccak tokenIn tokenOut swapFee)) (tokenIn < tokenOut) amountIn
            (getSqrtPriceLimitX96 (tokenIn < tokenOut))) with
        | .ok amount => .ok amount last
        | .error failure => .error failure last := by
  generalize made : ({ state.tx with
    transactTo := getUniswapV3QuoterAddress, caller := getEthDev, value := 0
    data := encodeCall 0xf7729d43 [tokenIn.toNat, tokenOut.toNat, swapFee.toNat, amountIn.toNat,
      (getSqrtPriceLimitX96 (tokenIn < tokenOut)).toNat] } : TxEnv) = tx
  have target : tx.transactTo = getUniswapV3QuoterAddress := by rw [← made]
  have data : tx.data = encodeCall 0xf7729d43 [tokenIn.toNat, tokenOut.toNat, swapFee.toNat,
      amountIn.toNat, (getSqrtPriceLimitX96 (tokenIn < tokenOut)).toNat] := by rw [← made]
  have selector : tx.data.take 4 = bigEndian 4 0xf7729d43 := by
    rw [data, encodeCall]
    exact List.take_left' (length_bigEndian 4 _)
  have gives := fork.quotes state.ran ⟨.transactRef, .quote, tx⟩ target selector
  rw [data, quoteExactInputSingle_encodeCall] at gives
  refine ⟨⟨tx, state.ran ++ [⟨.transactRef, .quote, tx⟩], state.built⟩, ?_⟩
  have asked : fork.toSetup.getAmountOutEvmV3 amountIn tokenIn tokenOut swapFee state
      = (do
          let output ← fork.toSetup.query .quote
          if output.length < 32 then throw (.error .abiError)
          pure (wordAt (byteAt output) 0) : Simulation Word) ⟨tx, state.ran, state.built⟩ := by
    rw [← made]
    rfl
  rw [asked, bind_apply]
  cases quoted : exactInput (fork.pools state.ran
      (quotedPool fork.keccak tokenIn tokenOut swapFee)) (tokenIn < tokenOut) amountIn
      (getSqrtPriceLimitX96 (tokenIn < tokenOut)) with
  | ok amount =>
    rw [quoted] at gives
    obtain ⟨gasUsed, answer⟩ := gives
    have whole : wordAt (byteAt (bigEndian 32 amount.toNat)) 0 = amount := by
      apply BitVec.eq_of_toNat_eq
      rw [toNat_wordAt, window_bigEndian]
      exact Nat.mod_eq_of_lt amount.isLt
    have output : fork.toSetup.query .quote ⟨tx, state.ran, state.built⟩
        = .ok (bigEndian 32 amount.toNat)
          ⟨tx, state.ran ++ [⟨.transactRef, .quote, tx⟩], state.built⟩ := by
      simp only [Setup.query, bind_apply, runTx, answer]
      rfl
    simp only [output, length_bigEndian, lt_irrefl, if_false, whole]
    rfl
  | error reason =>
    rw [quoted] at gives
    obtain ⟨gasUsed, answer⟩ := gives
    have failed : fork.toSetup.query .quote ⟨tx, state.ran, state.built⟩
        = .error (.error (.evmReverted reason))
          ⟨tx, state.ran ++ [⟨.transactRef, .quote, tx⟩], state.built⟩ := by
      simp only [Setup.query, bind_apply, runTx, answer]
      rfl
    simp only [failed]
    rfl

/-- The amount out of a fork: the quote of the pool that the quoter asks. -/
theorem amountOut_eq (fork : Fork exactInput) (ingredients : RawIngredients) (isFrontrun : Bool)
    (amountIn : Word) (state : State) (v3 : ingredients.targetPool.poolVariant = .uniswapV3) :
    amountOut fork.toSetup ingredients isFrontrun amountIn state
      = received (exactInput (fork.pools state.ran (quotedPool fork.keccak
            (tokens ingredients isFrontrun).1 (tokens ingredients isFrontrun).2
            ingredients.targetPool.swapFee))
          ((tokens ingredients isFrontrun).1 < (tokens ingredients isFrontrun).2) amountIn
          (getSqrtPriceLimitX96
            ((tokens ingredients isFrontrun).1 < (tokens ingredients isFrontrun).2))) := by
  obtain ⟨last, asked⟩ := getAmountOutEvmV3_eq fork amountIn (tokens ingredients isFrontrun).1
    (tokens ingredients isFrontrun).2 ingredients.targetPool.swapFee state
  rw [amountOut, Setup.getAmountOut, v3]
  simp only [asked]
  cases received (exactInput (fork.pools state.ran (quotedPool fork.keccak
      (tokens ingredients isFrontrun).1 (tokens ingredients isFrontrun).2
      ingredients.targetPool.swapFee))
    ((tokens ingredients isFrontrun).1 < (tokens ingredients isFrontrun).2) amountIn
    (getSqrtPriceLimitX96
      ((tokens ingredients isFrontrun).1 < (tokens ingredients isFrontrun).2))) <;> rfl

/-- A fork on which nothing changes the pools. -/
def fixedFork (keccak : List Byte → Word) (exactInput : ExactInput PoolState)
    (pools : Address → PoolState) : Fork exactInput where
  backend := {
    answer := fun history =>
      match history.getLast? with
      | none => .evmError
      | some ran =>
        match quoteExactInputSingle keccak exactInput pools ran.tx.data with
        | .ok amountOut => .success (bigEndian 32 amountOut.toNat) 0
        | .error reason => .revert reason 0
    accessList := fun _ => []
    isSandoSafu := fun _ => true }
  nextBlock := ⟨0, 0⟩
  keccak
  searcher := 0
  sandwichContract := 0
  pools := fun _ => pools
  quotes := by
    intro history ran _ _
    simp only [List.getLast?_concat]
    cases quoteExactInputSingle keccak exactInput pools ran.tx.data with
    | ok amountOut => exact ⟨0, rfl⟩
    | error reason => exact ⟨0, rfl⟩

/-! ### The pool of the factory -/

/-- The pool of the Uniswap factory with the tokens and the fee of a pool. -/
def uniswapPool (keccak : List Byte → Word) (pool : TargetPool) : Address :=
  poolAddress keccak uniswapFactory (V3.poolKeyHash keccak pool.toPool)

/-- The quoter does not mind the order of the tokens. -/
theorem quotedPool_tokens {pool : TargetPool} (ordered : pool.token0 ≤ pool.token1)
    (meats : List Meat) (isFrontrun : Bool) :
    quotedPool keccak (tokens (rawIngredients pool meats getWethAddress) isFrontrun).1
        (tokens (rawIngredients pool meats getWethAddress) isFrontrun).2 pool.swapFee
      = uniswapPool keccak pool := by
  have inOrder : quotedPool keccak pool.token0 pool.token1 pool.swapFee = uniswapPool keccak pool := by
    rw [quotedPool, if_neg (BitVec.not_lt.mpr ordered)]
    rfl
  have swapped : quotedPool keccak pool.token1 pool.token0 pool.swapFee = uniswapPool keccak pool := by
    rw [quotedPool]
    by_cases apart : pool.token0 < pool.token1
    · rw [if_pos apart]
      rfl
    · have same : pool.token0 = pool.token1 := BitVec.le_antisymm ordered (BitVec.not_lt.mp apart)
      rw [if_neg apart, uniswapPool, V3.poolKeyHash, same]
  rw [rawIngredients]
  by_cases weth : getWethAddress = pool.token1
  · rw [if_pos weth]
    cases isFrontrun
    · exact inOrder
    · exact swapped
  · rw [if_neg weth]
    cases isFrontrun
    · exact swapped
    · exact inOrder

theorem received_injective {first second : Except (List Byte) Word}
    (same : received first = received second) : first = second := by
  cases first <;> cases second <;> simp_all [received, Except.mapError]

/-- The pools whose quotes are their own are those of the Uniswap factory. -/
theorem QuotesItself.address_eq {pool : TargetPool} {meats : List Meat}
    (quotes : QuotesItself keccak exactInput (rawIngredients pool meats getWethAddress))
    (informative : Informative exactInput) (v3 : pool.poolVariant = .uniswapV3)
    (ordered : pool.token0 ≤ pool.token1) : pool.address = uniswapPool keccak pool := by
  by_contra apart
  have target : (rawIngredients pool meats getWethAddress).targetPool = pool := by
    unfold rawIngredients
    split <;> rfl
  -- the traded pool is in one state and all others are in another one
  obtain ⟨amountIn, first, second, differ⟩ := informative
    ((tokens (rawIngredients pool meats getWethAddress) true).1
      < (tokens (rawIngredients pool meats getWethAddress) true).2)
  have own := quotes (fixedFork keccak exactInput fun address =>
    if address = pool.address then first else second) true amountIn .initial rfl
  rw [amountOut_eq _ _ _ _ _ (target.symm ▸ v3), target, fixedFork, quotedPool_tokens ordered] at own
  simp only [if_true, if_neg (Ne.symm apart)] at own
  exact differ (received_injective own).symm

end Quote

/-! ### The pool of a payload -/

section Payload

variable {keccak : List Byte → Word} {blockNumber amountIn amountOut : Word} {input output : Address}
  {pool : Pool} {isFirst : Bool} {segment : List Byte × Word}

theorem createPayloadWethIsInput_address
    (built : V3.createPayloadWethIsInput keccak blockNumber amountIn amountOut input output pool
      = some segment) : addressAt (byteAt segment.1) 2 = pool.address := by
  unfold V3.createPayloadWethIsInput at built
  simp only [Option.bind_eq_bind, Option.bind_eq_some_iff, Option.some.injEq] at built
  obtain ⟨swapType, -, amount, -, encoded, -, value, -, rfl⟩ := built
  simp (disch := simp) only [encodePacked_cons, pack_numberWithShift, pack_packed, pack_address,
    addressAt_append_right, length_bigEndian, Nat.reduceDiv, Nat.reduceSub, addressAt_bigEndian]

theorem createPayloadWethIsOutput_address
    (built : V3.createPayloadWethIsOutput keccak blockNumber amountIn amountOut input output pool
      = some segment) : addressAt (byteAt segment.1) 2 = pool.address := by
  unfold V3.createPayloadWethIsOutput at built
  simp only [Option.bind_eq_bind, Option.bind_eq_some_iff, Option.some.injEq] at built
  obtain ⟨swapType, -, amount, -, encoded, -, value, -, rfl⟩ := built
  simp (disch := simp) only [encodePacked_cons, pack_numberWithShift, pack_packed, pack_address,
    addressAt_append_right, length_bigEndian, Nat.reduceDiv, Nat.reduceSub, addressAt_bigEndian]

/-- A segment of several starts with its label and its pool. -/
theorem withBlock_address {payloadData : List Byte} {swapType : ℕ} {rest : List PackedToken}
    (packed_eq : payloadData = encodePacked
      (packed swapType ⟨8, fits_8⟩ :: .address pool.address :: rest)) :
    addressAt (byteAt (V3.withBlock blockNumber isFirst payloadData)) (if isFirst then 3 else 2)
      = pool.address := by
  rw [packed_eq, V3.withBlock]
  cases isFirst <;>
    simp (disch := simp) only [if_true, Bool.false_eq_true, if_false, encodePacked_cons,
      pack_numberWithShift, pack_packed, pack_address, pack_bytes, List.append_assoc,
      addressAt_append_right, length_bigEndian, Nat.reduceDiv, Nat.reduceSub, addressAt_bigEndian]

theorem createMultiPayloadWethIsInput_address
    (built : V3.createMultiPayloadWethIsInput keccak blockNumber amountIn amountOut input output pool
      isFirst = some segment) :
    addressAt (byteAt segment.1) (if isFirst then 3 else 2) = pool.address := by
  unfold V3.createMultiPayloadWethIsInput at built
  simp only [Option.bind_eq_bind, Option.bind_eq_some_iff, Option.some.injEq] at built
  obtain ⟨swapType, -, amount, -, encoded, -, value, -, other, -, rfl⟩ := built
  exact withBlock_address rfl

theorem createMultiPayloadWethIsOutput_address
    (built : V3.createMultiPayloadWethIsOutput keccak blockNumber amountIn amountOut input output pool
      isFirst = some segment) :
    addressAt (byteAt segment.1) (if isFirst then 3 else 2) = pool.address := by
  unfold V3.createMultiPayloadWethIsOutput at built
  simp only [Option.bind_eq_bind, Option.bind_eq_some_iff, Option.some.injEq] at built
  obtain ⟨swapType, -, amount, -, encoded, -, value, -, other, -, rfl⟩ := built
  exact withBlock_address rfl

end Payload

/-- Every payload for an ingredient is directed to its pool. -/
def TradesItself (ingredients : RawIngredients) : Prop :=
  ∀ (setup : Setup) (isMultiple isFirst : Bool) (amountIn amountOut : Word) (state state' : State)
    (segment : List Byte × Word),
    setup.frontrunPayload isMultiple isFirst amountIn amountOut ingredients state
        = .ok segment state'
      ∨ setup.backrunPayload isMultiple isFirst amountIn amountOut ingredients state
        = .ok segment state' →
    addressAt (byteAt segment.1) (if isMultiple && isFirst then 3 else 2)
      = ingredients.targetPool.address

theorem tradesItself {ingredients : RawIngredients}
    (v3 : ingredients.targetPool.poolVariant = .uniswapV3) : TradesItself ingredients := by
  intro setup isMultiple isFirst amountIn amountOut state state' segment built
  rcases built with built | built
  · rw [Setup.frontrunPayload, v3] at built
    obtain ⟨first, between, -, built⟩ := bind_eq_ok.mp built
    obtain ⟨second, last, -, built⟩ := bind_eq_ok.mp built
    cases isMultiple with
    | true => exact createMultiPayloadWethIsInput_address (ofOption_eq_ok.mp built).1
    | false => exact createPayloadWethIsInput_address (ofOption_eq_ok.mp built).1
  · rw [Setup.backrunPayload, v3] at built
    obtain ⟨first, between, -, built⟩ := bind_eq_ok.mp built
    obtain ⟨second, last, -, built⟩ := bind_eq_ok.mp built
    cases isMultiple with
    | true => exact createMultiPayloadWethIsOutput_address (ofOption_eq_ok.mp built).1
    | false => exact createPayloadWethIsOutput_address (ofOption_eq_ok.mp built).1

/-! ### Quoted and traded pool -/

/-- Every V3 pool of the indexer is traded itself, and it is quoted itself exactly when it is the pool
of the Uniswap factory with its tokens and its fee. -/
theorem quotesItself_iff {PoolState : Type} (keccak : List Byte → Word)
    (exactInput : ExactInput PoolState) (informative : Informative exactInput) {dex : Dex} {log : Log}
    {pool : TargetPool} (v3 : dex.poolVariant = .uniswapV3)
    (found : dex.newPoolFromEvent log = some pool) (meats : List Meat) :
    TradesItself (rawIngredients pool meats getWethAddress)
    ∧ (QuotesItself keccak exactInput (rawIngredients pool meats getWethAddress)
      ↔ pool.address = uniswapPool keccak pool) := by
  have indexed := (Dex.newPoolFromEvent_spec found).2
  have variant : pool.poolVariant = .uniswapV3 := indexed.poolVariant.trans v3
  have target : (rawIngredients pool meats getWethAddress).targetPool = pool := by
    unfold rawIngredients
    split <;> rfl
  refine ⟨tradesItself (target.symm ▸ variant), fun quotes =>
    quotes.address_eq informative variant indexed.ordered, ?_⟩
  intro own fork isFrontrun amountIn state same
  rw [amountOut_eq _ _ _ _ _ (target.symm ▸ variant), target, same,
    quotedPool_tokens indexed.ordered, ← own]

/-- The log of a pool of USDC and WETH with a fee of 500. -/
def usdcLog (factory address : Address) : Log where
  block := 17000000
  address := factory
  topics := [poolCreatedEventSignature .uniswapV3, 0xA0b86991c6218b36c1d19D4a2e9Eb0cE3606eB48,
    0xC02aaA39b223FE8D0A0e5C4F27eAD9083C756Cc2, 500]
  data := bigEndian 32 10 ++ bigEndian 32 address.toNat

/-- The pool at that address. -/
def usdcPoolAt (address : Address) : TargetPool where
  address
  token0 := 0xA0b86991c6218b36c1d19D4a2e9Eb0cE3606eB48
  token1 := 0xC02aaA39b223FE8D0A0e5C4F27eAD9083C756Cc2
  swapFee := 500
  poolVariant := .uniswapV3
  hasDust := false

/-- The pool of the Uniswap factory. -/
def usdcUniswap : Address := 0x88e6A0c2dDD26FEEb64F039a2c41296FcB3f5640

/-- The pool of the Sushiswap factory. -/
def usdcSushiswap : Address := 0x35644fB61aFBc458bf92B15AdD6ABc1996Be5014

/-- A quote at a constant price, which is the state of a pool. -/
def constantPrice : ExactInput Word := fun price _ amountIn _ => .ok (price * amountIn)

theorem informative_constantPrice : Informative constantPrice :=
  fun _ => ⟨1, 1, 2, by simp [constantPrice]⟩

theorem uniswapPool_usdc (address : Address) :
    uniswapPool usdcKeccak (usdcPoolAt address) = usdcUniswap := by
  change uniswapPool usdcKeccak (usdcPoolAt 0) = usdcUniswap
  decide +kernel

theorem quotesItself_iff_usdc :
    QuotesItself usdcKeccak constantPrice (rawIngredients (usdcPoolAt usdcUniswap) [] getWethAddress) := by
  have found : Dex.newPoolFromEvent ⟨0x1F98431c8aD98523631AE4a59f267346ea31F984, .uniswapV3, 12369621⟩
      (usdcLog 0x1F98431c8aD98523631AE4a59f267346ea31F984 usdcUniswap)
      = some (usdcPoolAt usdcUniswap) := by decide +kernel
  exact (quotesItself_iff usdcKeccak constantPrice informative_constantPrice rfl found []).2.mpr
    (uniswapPool_usdc _).symm

/-- The Sushiswap pool with the same tokens and fee is indexed, and quoted by the state of the Uniswap
pool. -/
theorem not_quotesItself_sushiswap :
    (∃ dex ∈ dexes, dex.newPoolFromEvent (usdcLog dex.factoryAddress usdcSushiswap)
      = some (usdcPoolAt usdcSushiswap))
    ∧ ¬ QuotesItself usdcKeccak constantPrice
      (rawIngredients (usdcPoolAt usdcSushiswap) [] getWethAddress) := by
  refine ⟨⟨⟨0xbaceb8ec6b9355dfc0269c18bac9d6e2bdc29c4f, .uniswapV3, 16955547⟩, by decide,
    by decide +kernel⟩, fun quotes => ?_⟩
  have own := quotes.address_eq informative_constantPrice rfl (by decide)
  rw [uniswapPool_usdc] at own
  exact absurd own (by decide)

end Sando.Cfmm
