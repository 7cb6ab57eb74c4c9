/-
The revenue of a sandwich on a V2 pair.

`calculateSwapV2` is the swap of the router contract that the simulations call. A `Host` is an EVM on which
the tokens, the pairs and the router live; what the other transactions do there is a parameter, and so is
which ones fail. The router has what it is given at the start and no other token, so the revenue of an
amount is at most what the others bring (`revenue_le`): the amounts of WETH, and what the pair gives
without a fee for the amounts of the other token. Without victims there is none.
-/

import Sando.Cfmm.Trades
import Sando.Simulate.Fees

namespace Sando.Cfmm

open Sando.Evm Sando.Curve Sando.Program Sando.Simulate Sando.TxBuilder

/-! ### The router -/

namespace BrainDance

/-- A call of `calculateSwapV2`. -/
structure SwapV2 where
  amountIn : ℕ
  targetPair : Address
  inputToken : Address
  outputToken : Address

/-- The call in some data, if there is one. -/
def decodeSwapV2 (data : List Byte) : Option SwapV2 :=
  if window (byteAt data) 0 4 = 0x81eeb93c ∧ 132 ≤ data.length ∧ argument data 1 < 2 ^ 160
      ∧ argument data 2 < 2 ^ 160 ∧ argument data 3 < 2 ^ 160 then
    some ⟨argument data 0, BitVec.ofNat 160 (argument data 1), BitVec.ofNat 160 (argument data 2),
      BitVec.ofNat 160 (argument data 3)⟩
  else none

/-- The trade that a call asks for. -/
def SwapV2.trade (call : SwapV2) : Trade :=
  ⟨braindanceAddress, call.targetPair, call.inputToken, call.outputToken, call.amountIn⟩

/-- Swap, and return the amount out and the balance after it; `none` is a revert. -/
def calculateSwapV2 (venue : Venue) (call : SwapV2) (market : Market) :
    Option ((ℕ × ℕ) × Market) := do
  -- optimistically send amountIn of inputToken to targetPair
  let market ← venue.transfer call.inputToken braindanceAddress call.targetPair call.amountIn market
  let reserves := market.getReserves call.targetPair
  let (reserveIn, reserveOut) :=
    sortReserves call.inputToken call.outputToken reserves.1 reserves.2
  -- find the actual amountIn sent to pair (accounts for tax if any)
  let balance := market.balanceOf call.inputToken call.targetPair
  guard (reserveIn ≤ balance)
  let amountOut ← getAmountOut (BitVec.ofNat 256 (balance - reserveIn)) (BitVec.ofNat 256 reserveIn)
    (BitVec.ofNat 256 reserveOut)
  let amountsOut := call.trade.amountsOut amountOut.toNat
  let market ← venue.swap call.targetPair braindanceAddress amountsOut.1 amountsOut.2 market
  -- find real balance after (accounts for taxed tokens)
  some ((amountOut.toNat, market.balanceOf call.outputToken braindanceAddress), market)

section Router

variable {venue : Venue} {call : SwapV2} {market after : Market} {amountOut balance : ℕ}

theorem decodeSwapV2_encodeCall (amountIn : Word) (targetPair inputToken outputToken : Address) :
    decodeSwapV2 (encodeCall 0x81eeb93c
        [amountIn.toNat, targetPair.toNat, inputToken.toNat, outputToken.toNat])
      = some ⟨amountIn.toNat, targetPair, inputToken, outputToken⟩ := by
  generalize listed : [amountIn.toNat, targetPair.toNat, inputToken.toNat, outputToken.toNat] = words
  have small : ∀ word ∈ words, word < 256 ^ 32 := by
    have address (account : Address) : account.toNat < 256 ^ 32 :=
      lt_trans account.isLt (by norm_num)
    simp only [← listed, List.forall_mem_cons]
    exact ⟨lt_of_lt_of_eq amountIn.isLt (by norm_num), address _, address _, address _, by simp⟩
  have read (index : ℕ) (inside : index < words.length) :
      argument (encodeCall 0x81eeb93c words) index = words[index] := by
    have found := @argument_encodeCall 0x81eeb93c index words [] inside
      (small _ (List.getElem_mem inside))
    rwa [List.append_nil] at found
  have selector : window (byteAt (encodeCall 0x81eeb93c words)) 0 4 = 0x81eeb93c := by
    rw [encodeCall, window_append_left (by simp), window_bigEndian]
    rfl
  subst listed
  simp only [decodeSwapV2, selector, read 1 (by simp), read 2 (by simp), read 3 (by simp),
    read 0 (by simp), List.getElem_cons_zero, List.getElem_cons_succ, BitVec.isLt, length_encodeCall,
    List.length_cons, List.length_nil, BitVec.ofNat_toNat, BitVec.setWidth_eq]
  rfl

theorem calculateSwapV2_eq_some
    (swapped : calculateSwapV2 venue call market = some ((amountOut, balance), after)) :
    venue.performAll (call.trade.actions amountOut) market = some after
      ∧ balance = after.balanceOf call.outputToken braindanceAddress := by
  obtain ⟨sent, transferred, swapped⟩ := Option.bind_eq_some_iff.mp swapped
  obtain ⟨_, -, swapped⟩ := Option.bind_eq_some_iff.mp swapped
  obtain ⟨amount, -, swapped⟩ := Option.bind_eq_some_iff.mp swapped
  obtain ⟨final, paid, swapped⟩ := Option.bind_eq_some_iff.mp swapped
  cases Option.some.inj swapped
  exact ⟨(Trade.performAll_actions transferred).trans paid, rfl⟩

end Router

end BrainDance

/-! ### An EVM with pairs -/

/-- An EVM on which tokens, pairs and the router live. -/
structure Host where
  venue : Venue
  start : Market
  /-- What a transaction does that does not swap with the router, the newest one first. -/
  traffic : List Ran → List Action
  /-- Whether a transaction fails for another reason. -/
  fails : List Ran → Bool

/-- The market after some transactions, all that was done on it, and the answer to the last one. -/
structure Hosted where
  market : Market
  actions : List Action
  answer : Answer

namespace Host

variable (host : Host)

/-- The call of the router in a transaction, if there is one. -/
def routerCall (tx : TxEnv) : Option BrainDance.SwapV2 :=
  if tx.transactTo = braindanceAddress then BrainDance.decodeSwapV2 tx.data else none

/-- Run a transaction behind some others. -/
def next (hosted : Hosted) (tx : Ran) (earlier : List Ran) : Hosted :=
  if host.fails (tx :: earlier) then { hosted with answer := .halt 0 }
  else
    match routerCall tx.tx with
    | some call =>
      match BrainDance.calculateSwapV2 host.venue call hosted.market with
      | some ((amountOut, balance), market) =>
        ⟨market, hosted.actions ++ call.trade.actions amountOut,
          .success (encodeWords [amountOut, balance]) 0⟩
      | none => { hosted with answer := .revert [] 0 }
    | none =>
      match host.venue.performAll (host.traffic (tx :: earlier)) hosted.market with
      | some market => ⟨market, hosted.actions ++ host.traffic (tx :: earlier), .success [] 0⟩
      | none => { hosted with answer := .revert [] 0 }

/-- Run transactions, given with the newest one first. -/
def follow : List Ran → Hosted
  | [] => ⟨host.start, [], .evmError⟩
  | tx :: earlier => host.next (follow earlier) tx earlier

def backend : Backend where
  answer ran := (host.follow ran.reverse).answer
  accessList _ := []
  isSandoSafu _ := true

end Host

/-! ### What is kept -/

section Host

variable {host : Host} {hosted : Hosted} {pair : Address} {ran : Ran} {earlier : List Ran}
  {call : BrainDance.SwapV2}

/-- What is kept of a market, with all that was brought since the start. -/
def Host.Keeps (host : Host) (pair : Address) (hosted : Hosted) : Prop :=
  Kept host.venue braindanceAddress pair host.start
    (fun kind => host.venue.bringsAll braindanceAddress pair kind hosted.actions) hosted.market

/-- More actions. -/
theorem Host.Keeps.append {actions : List Action} {market : Market} {answer : Answer}
    (keeps : host.Keeps pair hosted) (apart : braindanceAddress ≠ pair)
    (proper : ∀ action ∈ actions, action.Proper pair)
    (performed : host.venue.performAll actions hosted.market = some market) :
    host.Keeps pair ⟨market, hosted.actions ++ actions, answer⟩ := by
  have kept := Kept.performAll apart keeps proper performed
  simpa only [Host.Keeps, bringsAll_append] using kept

theorem keeps_next (apart : braindanceAddress ≠ pair)
    (proper : ∀ log, ∀ action ∈ host.traffic log, action.Proper pair)
    (keeps : host.Keeps pair hosted) : host.Keeps pair (host.next hosted ran earlier) := by
  unfold Host.next
  split
  · exact keeps
  · split
    · split
      · next performed =>
        exact keeps.append apart (Trade.actions_proper apart)
          (BrainDance.calculateSwapV2_eq_some performed).1
      · exact keeps
    · split
      · next performed => exact keeps.append apart (proper _) performed
      · exact keeps

/-- In every run. -/
theorem keeps_follow (apart : braindanceAddress ≠ pair)
    (proper : ∀ log, ∀ action ∈ host.traffic log, action.Proper pair)
    (synced : Synced host.venue pair host.start) (log : List Ran) :
    host.Keeps pair (host.follow log) := by
  induction log with
  | nil =>
    rw [Host.follow]
    exact synced.kept
  | cons ran earlier ih =>
    rw [Host.follow]
    exact keeps_next apart proper ih

/-- What a call of the router does: nothing, or a trade that goes through. -/
theorem next_cases (called : Host.routerCall ran.tx = some call) :
    (∃ answer, (∀ output gasUsed, answer ≠ .success output gasUsed)
        ∧ host.next hosted ran earlier = { hosted with answer })
      ∨ ∃ amountOut balance market,
        BrainDance.calculateSwapV2 host.venue call hosted.market = some ((amountOut, balance), market)
        ∧ host.next hosted ran earlier = ⟨market, hosted.actions ++ call.trade.actions amountOut,
          .success (encodeWords [amountOut, balance]) 0⟩ := by
  by_cases failed : host.fails (ran :: earlier) = true
  · refine .inl ⟨.halt 0, fun _ _ success => ?_, if_pos failed⟩
    cases success
  cases swapped : BrainDance.calculateSwapV2 host.venue call hosted.market with
  | none =>
    refine .inl ⟨.revert [] 0, fun _ _ success => ?_, ?_⟩
    · cases success
    · simp only [Host.next, if_neg failed, called, swapped]
  | some result =>
    obtain ⟨⟨amountOut, balance⟩, market⟩ := result
    refine .inr ⟨amountOut, balance, market, rfl, ?_⟩
    simp only [Host.next, if_neg failed, called, swapped]

/-- A call of the router that succeeds returns the balance after it. -/
theorem next_answer {output : List Byte} {gasUsed : ℕ} (called : Host.routerCall ran.tx = some call)
    (answered : (host.next hosted ran earlier).answer = .success output gasUsed) :
    ∃ amountOut, output = encodeWords [amountOut,
      (host.next hosted ran earlier).market.balanceOf call.outputToken braindanceAddress] := by
  obtain ⟨answer, failed, same⟩ | ⟨amountOut, balance, market, swapped, same⟩ :=
    @next_cases host hosted ran earlier call called
  · rw [same] at answered
    exact absurd answered (failed output gasUsed)
  · rw [same] at answered ⊢
    obtain ⟨output_eq, -⟩ := Answer.success.inj answered
    exact ⟨amountOut, by rw [← output_eq, (BrainDance.calculateSwapV2_eq_some swapped).2]⟩

/-- The router brings nothing to a pair that it trades with. -/
theorem bringsAll_next (called : Host.routerCall ran.tx = some call) (kind : Address) :
    host.venue.bringsAll braindanceAddress call.targetPair kind (host.next hosted ran earlier).actions
      = host.venue.bringsAll braindanceAddress call.targetPair kind hosted.actions := by
  obtain ⟨_, -, same⟩ | ⟨amountOut, _, _, -, same⟩ := @next_cases host hosted ran earlier call called
  · rw [same]
  · have nothing : host.venue.bringsAll braindanceAddress call.targetPair kind
        (call.trade.actions amountOut) = 0 := Trade.bringsAll_actions kind
    rw [same, bringsAll_append, nothing, Nat.add_zero]

/-- Neither do any number of its trades. -/
theorem bringsAll_follow {log : List Ran}
    (routed : ∀ ran ∈ log, ∃ call, Host.routerCall ran.tx = some call ∧ call.targetPair = pair)
    (kind : Address) : host.venue.bringsAll braindanceAddress pair kind (host.follow log).actions = 0 := by
  induction log with
  | nil => rfl
  | cons ran earlier ih =>
    obtain ⟨here, before⟩ := List.forall_mem_cons.mp routed
    obtain ⟨call, called, rfl⟩ := here
    rw [Host.follow, bringsAll_next called, ih before]

end Host

/-! ### The revenue -/

section Revenue

variable {setup : Setup} {ingredients : RawIngredients} {frontrunIn revenue : Word} {state after : State}

/-- A call of the router that is decoded. -/
theorem braindance_eq_ok {role : Role} {failed halted : SimulationError}
    {reverted : List Byte → SimulationError} {data : List Byte} {result : Word × Word}
    (called : setup.braindance role failed halted reverted data state = .ok result after) :
    ∃ tx output gasUsed, tx.transactTo = braindanceAddress ∧ tx.data = data
      ∧ after.ran = state.ran ++ [⟨.transactCommit, role, tx⟩]
      ∧ setup.backend.answer after.ran = .success output gasUsed
      ∧ result = (wordAt (byteAt output) 0, wordAt (byteAt output) 32) := by
  unfold Setup.braindance at called
  obtain ⟨_, wrote, set, called⟩ := bind_eq_ok.mp called
  obtain ⟨log, between, ran, decoded⟩ := bind_eq_ok.mp called
  cases set
  cases ran
  cases answered : setup.backend.answer (state.ran ++ [⟨.transactCommit, role, { state.tx with
      caller := braindanceControllerAddress, transactTo := braindanceAddress, data, value := 0
      gasLimit := 700000, gasPrice := setup.baseFee }⟩]) with
  | success output gasUsed =>
    simp only [answered] at decoded
    split_ifs at decoded
    · cases decoded
    · cases decoded
      exact ⟨_, output, gasUsed, rfl, rfl, rfl, answered, rfl⟩
  | evmError => simp only [answered] at decoded; cases decoded
  | revert _ _ => simp only [answered] at decoded; cases decoded
  | halt _ => simp only [answered] at decoded; cases decoded

/-- The data of the router's swap on a V2 pair is a call of the router. -/
theorem buildSwapData_eq_ok {pool : TargetPool} {amountIn : Word} {tokenIn tokenOut : Address}
    {data : List Byte} (variant : pool.poolVariant = .uniswapV2)
    (built : buildSwapData pool amountIn tokenIn tokenOut state = .ok data after) :
    state = after
      ∧ BrainDance.decodeSwapV2 data = some ⟨amountIn.toNat, pool.address, tokenIn, tokenOut⟩ := by
  unfold buildSwapData at built
  simp only [variant] at built
  cases built
  exact ⟨rfl, BrainDance.decodeSwapV2_encodeCall _ _ _ _⟩

/-- An evaluation swaps with the router in front of the victims and behind them, and the revenue is what
the last swap returns beyond the starting balance. -/
theorem evaluateSandwichRevenue_eq_ok (variant : ingredients.targetPool.poolVariant = .uniswapV2)
    (evaluated : setup.evaluateSandwichRevenue frontrunIn ingredients state = .ok revenue after) :
    ∃ (backrunIn : Word) (frontrun backrun : TxEnv) (opened moved : State) (output : List Byte)
      (gasUsed : ℕ),
      Host.routerCall frontrun = some ⟨frontrunIn.toNat, ingredients.targetPool.address,
        ingredients.startendToken, ingredients.intermediaryToken⟩
      ∧ opened.ran = state.ran ++ [⟨.transactCommit, .frontrun, frontrun⟩]
      ∧ runMeats ingredients.meats opened = .ok () moved
      ∧ Host.routerCall backrun = some ⟨backrunIn.toNat, ingredients.targetPool.address,
        ingredients.intermediaryToken, ingredients.startendToken⟩
      ∧ after.ran = moved.ran ++ [⟨.transactCommit, .backrun, backrun⟩]
      ∧ setup.backend.answer after.ran = .success output gasUsed
      ∧ revenue = (checkedSub (wordAt (byteAt output) 32) braindanceStartingBalance).getD 0 := by
  unfold Setup.evaluateSandwichRevenue at evaluated
  obtain ⟨frontrunData, _, first, evaluated⟩ := bind_eq_ok.mp evaluated
  obtain ⟨⟨_, backrunIn⟩, opened, opens, evaluated⟩ := bind_eq_ok.mp evaluated
  obtain ⟨_, moved, moves, evaluated⟩ := bind_eq_ok.mp evaluated
  obtain ⟨backrunData, _, last, evaluated⟩ := bind_eq_ok.mp evaluated
  obtain ⟨⟨_, balance⟩, _, closes, returned⟩ := bind_eq_ok.mp evaluated
  cases returned
  obtain ⟨rfl, buys⟩ := buildSwapData_eq_ok variant first
  obtain ⟨rfl, sells⟩ := buildSwapData_eq_ok variant last
  obtain ⟨frontrun, _, _, toRouter, front, ranFront, -, -⟩ := braindance_eq_ok opens
  obtain ⟨backrun, output, gasUsed, again, back, ranBack, answered, result⟩ := braindance_eq_ok closes
  cases result
  exact ⟨backrunIn, frontrun, backrun, opened, moved, output, gasUsed,
    by rw [Host.routerCall, if_pos toRouter, front, buys], ranFront, moves,
    by rw [Host.routerCall, if_pos again, back, sells], ranBack, answered, rfl⟩

theorem toNat_checkedSub_getD (first second : Word) :
    ((checkedSub first second).getD 0).toNat = first.toNat - second.toNat := by
  by_cases le : second.toNat ≤ first.toNat
  · rw [checkedSub_of_le le]
    exact toNat_ofNat_of_lt (by have := first.isLt; omega)
  · rw [checkedSub_of_lt (Nat.lt_of_not_le le), Nat.sub_eq_zero_of_le (Nat.le_of_not_le le)]
    rfl

/-- A balance is returned in the second word, unless it is too long for one. -/
theorem second_word_le (amountOut balance : ℕ) :
    (wordAt (byteAt (encodeWords [amountOut, balance])) 32).toNat ≤ balance := by
  have read := @window_encodeWords 1 [amountOut, balance] [] Nat.one_lt_two
  rw [List.append_nil, Nat.mul_one] at read
  rw [toNat_wordAt, read]
  exact Nat.mod_le _ _

/-- What the transactions have brought to the router and a pair. -/
def Host.brought (host : Host) (pair kind : Address) (ran : List Ran) : ℕ :=
  host.venue.bringsAll braindanceAddress pair kind (host.follow ran.reverse).actions

/-- The start of a simulation: the router has its starting balance and nothing of the other token, and the
reserves of the pair are its balances. -/
structure Host.Ready (host : Host) (ingredients : RawIngredients) : Prop where
  apart : braindanceAddress ≠ ingredients.targetPool.address
  tokens : IsPair host.venue ingredients.targetPool.address ingredients.startendToken
    ingredients.intermediaryToken
  synced : Synced host.venue ingredients.targetPool.address host.start
  balance : host.start.balanceOf ingredients.startendToken braindanceAddress
    = braindanceStartingBalance.toNat
  empty : host.start.balanceOf ingredients.intermediaryToken braindanceAddress = 0
  proper : ∀ log, ∀ action ∈ host.traffic log, action.Proper ingredients.targetPool.address

section Bound

variable {host : Host}

theorem revenue_le_brought (hosted : setup.backend = host.backend)
    (variant : ingredients.targetPool.poolVariant = .uniswapV2) (ready : host.Ready ingredients)
    (evaluated : setup.evaluateSandwichRevenue frontrunIn ingredients state = .ok revenue after) :
    revenue.toNat
      ≤ host.brought ingredients.targetPool.address ingredients.startendToken after.ran
        + quote 1 1
          (host.start.balanceOf ingredients.intermediaryToken ingredients.targetPool.address)
          (host.start.balanceOf ingredients.startendToken ingredients.targetPool.address)
          (host.brought ingredients.targetPool.address ingredients.intermediaryToken after.ran) := by
  obtain ⟨backrunIn, -, backrun, -, moved, output, gasUsed, -, -, -, called, ran, answered, rfl⟩ :=
    evaluateSandwichRevenue_eq_ok variant evaluated
  have newest : after.ran.reverse = ⟨.transactCommit, .backrun, backrun⟩ :: moved.ran.reverse := by
    rw [ran, List.reverse_append]
    rfl
  have kept := keeps_follow ready.apart ready.proper ready.synced after.ran.reverse
  have gained := kept.gain_le ready.synced ready.tokens (ready.empty ▸ Nat.zero_le _)
  have reported : ∃ amountOut, output = encodeWords [amountOut,
      (host.follow after.ran.reverse).market.balanceOf ingredients.startendToken braindanceAddress] := by
    rw [hosted] at answered
    change (host.follow after.ran.reverse).answer = _ at answered
    rw [newest, Host.follow] at answered ⊢
    have returned := next_answer called answered
    exact returned
  obtain ⟨amountOut, same⟩ := reported
  have word : (wordAt (byteAt output) 32).toNat
      ≤ (host.follow after.ran.reverse).market.balanceOf ingredients.startendToken braindanceAddress := by
    rw [same]
    exact second_word_le _ _
  rw [toNat_checkedSub_getD]
  have bounded := word.trans gained
  rw [ready.balance] at bounded
  unfold Host.brought
  omega

/-- Without victims only the router has swapped. -/
theorem brought_eq_zero (host : Host) (variant : ingredients.targetPool.poolVariant = .uniswapV2)
    (evaluated : setup.evaluateSandwichRevenue frontrunIn ingredients state = .ok revenue after)
    (alone : ingredients.meats = []) (fresh : state.ran = []) (kind : Address) :
    host.brought ingredients.targetPool.address kind after.ran = 0 := by
  obtain ⟨_, frontrun, backrun, opened, moved, _, _, buys, opens, moves, sells, closes, -, -⟩ :=
    evaluateSandwichRevenue_eq_ok variant evaluated
  rw [alone] at moves
  obtain rfl : opened = moved := by cases moves; rfl
  apply bringsAll_follow
  rw [closes, opens, fresh]
  simp only [List.nil_append, List.cons_append, List.reverse_cons, List.reverse_nil, List.forall_mem_cons]
  exact ⟨⟨_, sells, rfl⟩, ⟨_, buys, rfl⟩, by simp⟩

/-- The revenue of an amount is at most what the others bring, and what the pair gives for it. Without
victims, in a new EVM, it is zero. -/
theorem revenue_le (hosted : setup.backend = host.backend)
    (variant : ingredients.targetPool.poolVariant = .uniswapV2) (ready : host.Ready ingredients)
    (evaluated : setup.evaluateSandwichRevenue frontrunIn ingredients state = .ok revenue after) :
    revenue.toNat
        ≤ host.brought ingredients.targetPool.address ingredients.startendToken after.ran
          + quote 1 1
            (host.start.balanceOf ingredients.intermediaryToken ingredients.targetPool.address)
            (host.start.balanceOf ingredients.startendToken ingredients.targetPool.address)
            (host.brought ingredients.targetPool.address ingredients.intermediaryToken after.ran)
      ∧ (ingredients.meats = [] → state.ran = [] → revenue = 0) := by
  have bounded := revenue_le_brought hosted variant ready evaluated
  refine ⟨bounded, fun alone fresh => BitVec.eq_of_toNat_eq (Nat.le_zero.mp ?_)⟩
  have nothing := brought_eq_zero host variant evaluated alone fresh
  simpa only [nothing, Nat.zero_add, quote_zero] using bounded

end Bound

/-- USDC and WETH, without taxes. -/
def usdcVenue : Venue where
  token0 _ := 0xA0b86991c6218b36c1d19D4a2e9Eb0cE3606eB48
  token1 _ := getWethAddress
  received _ value := value
  received_le _ _ := le_rfl

/-- A pair of USDC and WETH, the router with its starting balance and a victim with 100 WETH. -/
def usdcMarket : Market where
  balanceOf token owner :=
    if owner = 3 then if token = getWethAddress then 13000000000000000000000 else 24000000000000
    else if token = getWethAddress ∧ owner = braindanceAddress then 420000000000000000000
    else if token = getWethAddress ∧ owner = 4 then 100000000000000000000
    else 0
  getReserves _ := (24000000000000, 13000000000000000000000)

/-- The victim sells 100 WETH. -/
def usdcHost : Host where
  venue := usdcVenue
  start := usdcMarket
  traffic _ := [.transfer getWethAddress 4 3 100000000000000000000, .swap 3 4 180000000000 0]
  fails _ := false

def usdcPairIngredients (meats : List Meat) : RawIngredients :=
  { usdcIngredients meats with
    targetPool := { (usdcIngredients meats).targetPool with poolVariant := .uniswapV2 } }

theorem usdcMarket_synced : Synced usdcVenue 3 usdcMarket := ⟨rfl, by decide, by decide⟩

theorem usdcHost_ready {meats : List Meat} : usdcHost.Ready (usdcPairIngredients meats) where
  apart := show braindanceAddress ≠ 3 by decide
  tokens := .inr ⟨rfl, rfl⟩
  synced := usdcMarket_synced
  balance :=
    show usdcMarket.balanceOf getWethAddress braindanceAddress = braindanceStartingBalance.toNat by decide
  empty :=
    show usdcMarket.balanceOf 0xA0b86991c6218b36c1d19D4a2e9Eb0cE3606eB48 braindanceAddress = 0 by decide
  proper log action mem := by
    simp only [usdcHost, List.mem_cons, List.not_mem_nil, or_false] at mem
    obtain rfl | rfl := mem
    · exact show (4 : Address) ≠ 3 by decide
    · trivial

/-- The revenue of 10 WETH on the host. -/
def usdcRevenue (meats : List Meat) : EStateM.Result Failure State Word :=
  Setup.evaluateSandwichRevenue { lenientSetup with backend := usdcHost.backend } 10000000000000000000
    (usdcPairIngredients meats) .initial

/-- A result that is above some amount. -/
def earnsFrom (least : ℕ) : EStateM.Result Failure State Word → Bool
  | .ok revenue _ => least ≤ revenue.toNat
  | .error _ _ => false

theorem exists_revenue {least : ℕ} {result : EStateM.Result Failure State Word}
    (earns : earnsFrom least result = true) :
    ∃ revenue after, result = .ok revenue after ∧ least ≤ revenue.toNat := by
  cases result with
  | ok revenue after => exact ⟨revenue, after, rfl, of_decide_eq_true earns⟩
  | error _ _ => cases earns

/-- In front of the victim there is a revenue, and the bound is on it; without the victim there is none. -/
theorem revenue_le_usdc : (∃ revenue after, usdcRevenue [legacyMeat] = .ok revenue after
      ∧ 0 < revenue.toNat
      ∧ revenue.toNat ≤ usdcHost.brought 3 getWethAddress after.ran
        + quote 1 1 24000000000000 13000000000000000000000
          (usdcHost.brought 3 0xA0b86991c6218b36c1d19D4a2e9Eb0cE3606eB48 after.ran))
    ∧ ∃ after, usdcRevenue [] = .ok 0 after := by
  obtain ⟨revenue, after, run, positive⟩ :=
    exists_revenue (show earnsFrom 1 (usdcRevenue [legacyMeat]) = true by decide +kernel)
  obtain ⟨none, last, alone, -⟩ :=
    exists_revenue (show earnsFrom 0 (usdcRevenue []) = true by decide +kernel)
  have nothing : none = 0 := (revenue_le rfl rfl usdcHost_ready alone).2 rfl rfl
  exact ⟨⟨revenue, after, run, positive, (revenue_le rfl rfl usdcHost_ready run).1⟩, last, nothing ▸ alone⟩

end Revenue

end Sando.Cfmm
