/-
What the bundles gain.

The transactions of a bundle for one V2 pair reach the pair in a block, with the transactions of others
between them. `Lands` is a transaction that goes through: the contract is executed, and its calls are
performed on the market. What the contract has gained then comes from the others: it is at most the WETH
that they bring to it and to the pair, and what the pair gives without a fee for what they bring of the
other token (`bundles_gain_le`).
-/

import Sando.Cfmm.Callee
import Sando.Runner.Performed

namespace Sando.Runner

open Sando.Evm Sando.Evm.Context Sando.Huff Sando.TxBuilder Sando.Simulate Sando.Program Sando.StateDiff
open Sando.Cfmm (Venue Market Action Synced Sides frontrunActions backrunActions performCalls_v2Frontrun
  performCalls_v2Backrun sandwich_gain_le)
open Sando.Curve
open Sando.RoundTrip (Makes Sends WethPool getWethAddress_eq quietWorld)

/-- A transaction to the contract goes through, and this is the market behind it. -/
def Lands (venue : Venue) (number : Word) (tx : List Byte × Word) (trader : Address)
    (market after : Market) : Prop :=
  ∃ world message calls, Sends message number tx.1 tx.2 ∧ message.address = trader
    ∧ (sandwich world message).Executes ⟨.stop, calls⟩
    ∧ venue.performCalls trader calls market = some after

/-- A sandwich in a block. The token that is not WETH has no tax, and what others do between the two
transactions takes nothing from the contract, and takes from the pair in its swaps only. -/
structure InBlock (number : Word) (pool : WethPool) (frontrun backrun : List Byte × Word)
    (venue : Venue) (trader : Address) (others : List Action) (start after : Market) : Prop where
  apart : trader ≠ pool.address
  token0 : venue.token0 pool.address = pool.token0
  token1 : venue.token1 pool.address = pool.token1
  untaxed : ∀ value, venue.received pool.other value = value
  synced : Synced venue pool.address start
  proper : ∀ action ∈ others, action.Proper pool.address
  spare : ∀ action ∈ others, action.Spares trader
  lands : ∃ opened moved, Lands venue number frontrun trader start opened
    ∧ venue.performAll others opened = some moved ∧ Lands venue number backrun trader moved after

section Lands

variable {venue : Venue} {number : Word} {tx : List Byte × Word} {trader : Address} {market after : Market}

/-- A payload lands with the calls that it makes. -/
theorem Lands.performed {calls : Address → List Evm.Event} (lands : Lands venue number tx trader market after)
    (makes : Makes number tx.1 tx.2 calls) : venue.performCalls trader (calls trader) market = some after := by
  obtain ⟨world, message, made, sends, rfl, executes, performed⟩ := lands
  obtain ⟨halt, known⟩ := makes world message sends
  obtain rfl : made = calls message.address := congrArg Outcome.events (executes.unique known)
  exact performed

end Lands

section InBlock

variable {number : Word} {pool : TargetPool} {wethPool : WethPool} {frontrun backrun : List Byte × Word}
  {spent bought sold taken : ℕ} {venue : Venue} {trader : Address} {others : List Action}
  {start after : Market}

theorem otherToken_eq (same : pool.toPool = wethPool.toPool) : otherToken pool = wethPool.other :=
  (tokens_rawIngredients [] same).2

theorem weth_ne_other (pool : WethPool) : wethAddress ≠ pool.other := by
  intro same
  have first := pool.weth_lt_other
  have second := pool.other_lt_weth
  rw [getWethAddress_eq, ← same] at first second
  exact absurd (first.symm.trans second) (by simp)

theorem sides_of_pool (token0 : venue.token0 wethPool.address = wethPool.token0)
    (token1 : venue.token1 wethPool.address = wethPool.token1) :
    Sides venue wethPool.address wethPool.other wethPool.isWethToken0 := by
  have different := weth_ne_other wethPool
  rcases wethPool.sides with ⟨side, weth, other⟩ | ⟨side, weth, other⟩
  · rw [side]
    exact ⟨token0.trans (weth.trans getWethAddress_eq), token1.trans other.symm, different⟩
  · rw [side]
    exact ⟨token1.trans (weth.trans getWethAddress_eq), token0.trans other.symm, different⟩

/-- What the frontrun does on a market. -/
theorem Sandwiches.performCalls_frontrun
    (performs : Sandwiches number pool frontrun backrun spent bought sold taken)
    (same : pool.toPool = wethPool.toPool) :
    venue.performCalls trader
        (v2Frontrun trader pool.address (getWethAddress < otherToken pool) spent bought) start
      = venue.performAll
        (frontrunActions trader wethPool.address wethPool.isWethToken0 spent bought) start := by
  have address : pool.address = wethPool.address := congrArg Pool.address same
  rw [performCalls_v2Frontrun performs.fits.1 performs.fits.2.1, address, otherToken_eq same,
    wethPool.weth_lt_other]

/-- What a backrun takes: for WETH as token 1 it has the low bytes of the amount sold in it. -/
def takenWeth (pool : WethPool) (sold taken : ℕ) : ℕ :=
  taken + if pool.isWethToken0 then 0 else sold % 2 ^ 32

/-- What the backrun does. -/
theorem Sandwiches.performCalls_backrun
    (performs : Sandwiches number pool frontrun backrun spent bought sold taken)
    (same : pool.toPool = wethPool.toPool) :
    venue.performCalls trader
        (v2Backrun trader pool.address (otherToken pool) (getWethAddress < otherToken pool) sold
          (taken + if getWethAddress < otherToken pool then 0 else sold % 2 ^ 32)) start
      = venue.performAll (backrunActions trader wethPool.address wethPool.other wethPool.isWethToken0 sold
        (takenWeth wethPool sold taken)) start := by
  have address : pool.address = wethPool.address := congrArg Pool.address same
  have side : (getWethAddress < wethPool.other) ↔ wethPool.isWethToken0 = true := by
    rw [← wethPool.weth_lt_other, decide_eq_true_iff]
  have soldSmall : sold < 2 ^ 256 := performs.sells.trans performs.fits.2.1
  -- the amount is rounded, so that there is room for four bytes
  have room : taken + (if getWethAddress < otherToken pool then 0 else sold % 2 ^ 32) < 2 ^ 256 := by
    obtain ⟨multiple, rfl⟩ := performs.rounds.2
    have low := performs.fits.2.2
    have dust : sold % 2 ^ 32 < 2 ^ 32 := Nat.mod_lt _ (by norm_num)
    split <;> omega
  rw [performCalls_v2Backrun soldSmall room, address, otherToken_eq same, takenWeth]
  simp only [side, Bool.decide_eq_true]

/-- What the two transactions gain. -/
theorem Sandwiches.gain_le (performs : Sandwiches number pool frontrun backrun spent bought sold taken)
    (same : pool.toPool = wethPool.toPool)
    (inBlock : InBlock number wethPool frontrun backrun venue trader others start after) :
    after.balanceOf wethAddress trader ≤ start.balanceOf wethAddress trader
      + venue.bringsAll trader wethPool.address wethAddress others
      + quote 1 1 (start.balanceOf wethPool.other wethPool.address)
        (start.balanceOf wethAddress wethPool.address)
        (venue.bringsAll trader wethPool.address wethPool.other others) := by
  obtain ⟨opened, moved, opens, moves, closes⟩ := inBlock.lands
  have opens := opens.performed performs.opens.makes
  have closes := closes.performed performs.closes.makes
  rw [performs.performCalls_frontrun same] at opens
  rw [performs.performCalls_backrun same] at closes
  exact sandwich_gain_le (sides_of_pool inBlock.token0 inBlock.token1) inBlock.apart inBlock.untaxed
    inBlock.synced inBlock.proper inBlock.spare performs.sells.le opens moves closes

end InBlock

/-- Whatever happens in a run, and whatever others do around it in a block, a bundle for one V2 pair of WETH
gains at most what the others bring, and nothing without them. -/
theorem bundles_gain_le (config : Config) (nonce : Word) (blockOracle : BlockOracle)
    (allPools : AllPools) (wethBalance : Word) (steps : List (Bot × BotEvent)) (last : Bot)
    (run : BotRun config (.new nonce blockOracle allPools wethBalance) steps last) :
    ∀ sent ∈ last.sent, ∀ pool, sent.optimalSandwich.targetPools = [pool] →
      pool.poolVariant = .uniswapV2 → ∀ wethPool : WethPool, pool.toPool = wethPool.toPool →
        ∃ frontrun backrun, sent.Signs config frontrun backrun
          ∧ (frontrun.data, frontrun.value)
            = (sent.optimalSandwich.frontrun.data, sent.optimalSandwich.frontrun.value)
          ∧ (backrun.data, backrun.value)
            = (sent.optimalSandwich.backrun.data, sent.optimalSandwich.backrun.value)
          ∧ ∀ venue trader others start after, InBlock (sent.targetBlock.number.setWidth 256) wethPool
              (frontrun.data, frontrun.value) (backrun.data, backrun.value) venue trader others start
              after →
            after.balanceOf wethAddress trader ≤ start.balanceOf wethAddress trader
                + venue.bringsAll trader wethPool.address wethAddress others
                + quote 1 1 (start.balanceOf wethPool.other wethPool.address)
                  (start.balanceOf wethAddress wethPool.address)
                  (venue.bringsAll trader wethPool.address wethPool.other others)
              ∧ (others = [] →
                after.balanceOf wethAddress trader ≤ start.balanceOf wethAddress trader) := by
  intro sent there pool single variant wethPool same
  obtain ⟨recipeBuilt, frontrun, backrun, signs, front, back⟩ := built_of_run run there
  obtain ⟨setup, meats, amountIn, quoted, bought, sold, amountOut, number, -, built⟩ :=
    recipeBuilt pool single
  have performs := built.sandwiches variant
  rw [number, ← front, ← back] at performs
  refine ⟨frontrun, backrun, signs, front, back, fun venue trader others start after inBlock => ?_⟩
  have bound := performs.gain_le same inBlock
  refine ⟨bound, fun alone => ?_⟩
  subst alone
  simpa [Venue.bringsAll] using bound

/-- The payloads of the timely run. -/
def usdcFrontrun : List Byte × Word :=
  (bigEndian 27 0x65301fb4e16d0168e52d35cacd2c6185b44281ec28c9dc79835b1a, 232)

def usdcBackrun : List Byte × Word :=
  (bigEndian 47
    0x653a3fb4e16d0168e52d35cacd2c6185b44281ec28c9dca0b86991c6218b36c1d19d4a2e9eb0ce3606eb4879835b19, 82)

/-- The tokens of the pair, without taxes. -/
def plainVenue : Venue where
  token0 _ := usdcWethPool.token0
  token1 _ := usdcWethPool.token1
  received _ value := value
  received_le _ _ := le_rfl

/-- A pair with little WETH, in which the contract and a victim have some. -/
def thinMarket : Market where
  balanceOf token owner :=
    if owner = usdcWethPool.address then 1000000000000000
    else if token = wethAddress ∧ (owner = 2 ∨ owner = 4) then 10000000000000000
    else 0
  getReserves _ := (1000000000000000, 1000000000000000)

/-- The victim buys USDC. -/
def usdcVictim : List Action :=
  [.transfer wethAddress 4 usdcWethPool.address 100000000000000,
    .swap usdcWethPool.address 4 80000000000000 0]

/-- Messages of the searcher to the contract that stop when all calls succeed. -/
theorem lands_of_stops {payload : List Byte} {value : Word} {calls : List Evm.Event}
    (fits : payload.length < 2 ^ 256) {market after : Market}
    (stops : (sandwich quietWorld
      ⟨searcherAddress, searcherAddress, 2, value, payload, 101, fits⟩).Executes ⟨.stop, calls⟩)
    (performed : plainVenue.performCalls 2 calls market = some after) :
    Lands plainVenue 101 (payload, value) 2 market after :=
  ⟨quietWorld, _, calls, ⟨rfl, rfl, rfl, rfl⟩, rfl, stops, performed⟩

theorem exists_inBlock_usdc : ∃ after,
    InBlock 101 usdcWethPool usdcFrontrun usdcBackrun plainVenue 2 usdcVictim thinMarket after := by
  have goes : (((plainVenue.performCalls 2
        (v2Frontrun 2 usdcWethPool.address false 996432412672 521894828544) thinMarket).bind
      (plainVenue.performAll usdcVictim)).bind
      (plainVenue.performCalls 2 (v2Backrun 2 usdcWethPool.address usdcWethPool.other false 521894828288
        354391103744))).isSome = true := by decide +kernel
  obtain ⟨after, goes⟩ := Option.isSome_iff_exists.mp goes
  obtain ⟨moved, goes, closes⟩ := Option.bind_eq_some_iff.mp goes
  obtain ⟨opened, opens, moves⟩ := Option.bind_eq_some_iff.mp goes
  refine ⟨after, by decide, rfl, rfl, fun _ => rfl, ⟨rfl, by decide, by decide⟩, ?_, ?_,
    opened, moved, ?_, moves, ?_⟩
  · simp [usdcVictim, Action.Proper]
    decide
  · simp [usdcVictim, Action.Spares]
    decide
  · exact lands_of_stops (by simp) ⟨20, by decide +kernel⟩ opens
  · exact lands_of_stops (by simp) ⟨20, by decide +kernel⟩ closes

/-- A bundle of those payloads. -/
def isUsdcBundle (sent : Sent) : Bool :=
  sent.targetBlock.number = 101
    ∧ sent.optimalSandwich.targetPools.map (isUsdcPool .uniswapV2) = [true]
    ∧ (sent.optimalSandwich.frontrun.data, sent.optimalSandwich.frontrun.value) = usdcFrontrun
    ∧ (sent.optimalSandwich.backrun.data, sent.optimalSandwich.backrun.value) = usdcBackrun

/-- The timely run, and its two bundles. -/
theorem exists_usdcBundles : ∃ steps last, BotRun plainConfig cheapBot steps last ∧ last.sent.length = 2
    ∧ ∀ sent ∈ last.sent, ∃ pool, sent.optimalSandwich.targetPools = [pool]
      ∧ pool.poolVariant = .uniswapV2 ∧ pool.toPool = usdcWethPool.toPool
      ∧ sent.targetBlock.number = 101
      ∧ (sent.optimalSandwich.frontrun.data, sent.optimalSandwich.frontrun.value) = usdcFrontrun
      ∧ (sent.optimalSandwich.backrun.data, sent.optimalSandwich.backrun.value) = usdcBackrun := by
  have known : (timelyEvents.foldlM (Bot.next plainConfig) cheapBot).map
      (fun last => last.sent.map isUsdcBundle) = some (List.replicate 2 true) := by decide +kernel
  obtain ⟨steps, last, run, length, seen⟩ := exists_run_of_seen known
  refine ⟨steps, last, run, length, fun sent there => ?_⟩
  obtain ⟨number, pools, front, back⟩ := of_decide_eq_true (seen sent there)
  obtain ⟨pool, single, usdc⟩ := List.map_eq_singleton_iff.mp pools
  obtain ⟨variant, same⟩ := isUsdcPool_iff.mp usdc
  exact ⟨pool, single, variant, same, number, front, back⟩

theorem bundles_gain_le_usdc : ∃ last : Bot, last.sent.length = 2 ∧ ∀ sent ∈ last.sent,
    ∃ frontrun backrun after, sent.Signs plainConfig frontrun backrun
      ∧ InBlock 101 usdcWethPool (frontrun.data, frontrun.value) (backrun.data, backrun.value) plainVenue 2
        usdcVictim thinMarket after
      ∧ after.balanceOf wethAddress 2 ≤ thinMarket.balanceOf wethAddress 2 + 100000000000000 := by
  obtain ⟨steps, last, run, length, known⟩ := exists_usdcBundles
  refine ⟨last, length, fun sent there => ?_⟩
  obtain ⟨pool, single, variant, same, number, opens, closes⟩ := known sent there
  obtain ⟨frontrun, backrun, signs, front, back, gains⟩ := bundles_gain_le plainConfig 0 _ twoPairs 0 steps
    last run sent there pool single variant usdcWethPool same
  obtain ⟨after, inBlock⟩ := exists_inBlock_usdc
  rw [opens] at front
  rw [closes] at back
  rw [← front, ← back] at inBlock
  rw [number] at gains
  obtain ⟨bound, -⟩ := gains plainVenue 2 usdcVictim thinMarket after inBlock
  have nothing : plainVenue.bringsAll 2 usdcWethPool.address usdcWethPool.other usdcVictim = 0 := by
    decide +kernel
  have brought : plainVenue.bringsAll 2 usdcWethPool.address wethAddress usdcVictim = 100000000000000 := by
    decide +kernel
  rw [nothing, brought] at bound
  refine ⟨frontrun, backrun, after, signs, inBlock, ?_⟩
  simpa using bound

end Sando.Runner
