/-
When the bundles go through.

Neither transaction of a bundle for one V2 pair goes through at a worse price than it was made for. The
contract asks the pair for a fixed amount, and reverts when the pair refuses. So the frontrun lands on a
market when the contract has the WETH and the pair gives, with its fee, at least what is to be bought for
what arrives of it, and the backrun in the same way (`bundles_land_iff`).
-/

import Sando.Cfmm.Trades
import Sando.Runner.Gains

namespace Sando.Runner

open Sando.Evm Sando.Evm.Context Sando.Huff Sando.TxBuilder Sando.Simulate Sando.Program Sando.StateDiff
open Sando.Cfmm (Venue Market Trade held frontrunActions backrunActions)
open Sando.RoundTrip (Completes Sends WethPool getWethAddress_eq exists_sends quietWorld)

/-- What the frontrun pays a pool. -/
def frontrunTrade (trader : Address) (pool : WethPool) (spent : ℕ) : Trade :=
  ⟨trader, pool.address, wethAddress, pool.other, spent⟩

/-- What the backrun pays a pool. -/
def backrunTrade (trader : Address) (pool : WethPool) (sold : ℕ) : Trade :=
  ⟨trader, pool.address, pool.other, wethAddress, sold⟩

/-- The two transactions go through when the contract can pay and the pool gives enough for that. -/
structure PriceGuard (number : Word) (pool : WethPool) (frontrun backrun : List Byte × Word)
    (spent bought sold taken : ℕ) : Prop where
  opens : ∀ venue trader market, (frontrunTrade trader pool spent).Ready venue market →
    ((∃ after, Lands venue number frontrun trader market after)
      ↔ spent ≤ market.balanceOf wethAddress trader
        ∧ (frontrunTrade trader pool spent).Fair venue market bought)
  closes : ∀ venue trader market, (backrunTrade trader pool sold).Ready venue market →
    ((∃ after, Lands venue number backrun trader market after)
      ↔ sold ≤ market.balanceOf pool.other trader
        ∧ (backrunTrade trader pool sold).Fair venue market (takenWeth pool sold taken))

section Lands

variable {venue : Venue} {number : Word} {tx : List Byte × Word} {trader : Address} {market : Market}
  {calls : Address → List Evm.Event} {pool : WethPool} {spent bought sold taken : ℕ}

/-- A payload lands when the calls that it makes can be performed. -/
theorem lands_iff (short : tx.1.length < 2 ^ 256) (completes : Completes number tx.1 tx.2 calls) :
    (∃ after, Lands venue number tx trader market after)
      ↔ (venue.performCalls trader (calls trader) market).isSome = true := by
  constructor
  · rintro ⟨after, lands⟩
    exact Option.isSome_iff_exists.mpr ⟨after, lands.performed completes.makes⟩
  · intro succeeds
    obtain ⟨after, performed⟩ := Option.isSome_iff_exists.mp succeeds
    obtain ⟨message, sends, rfl⟩ := exists_sends number tx.2 trader short
    exact ⟨after, quietWorld, message, _, sends, rfl, completes quietWorld message sends, performed⟩

theorem frontrunActions_eq : frontrunActions trader pool.address pool.isWethToken0 spent bought
    = (frontrunTrade trader pool spent).actions bought := by
  rw [← pool.weth_lt_other, getWethAddress_eq]
  by_cases first : wethAddress < pool.other
  · simp [frontrunActions, Trade.actions, Trade.amountsOut, frontrunTrade, first]
  · simp [frontrunActions, Trade.actions, Trade.amountsOut, frontrunTrade, first]

theorem backrunActions_eq : backrunActions trader pool.address pool.other pool.isWethToken0 sold taken
    = (backrunTrade trader pool sold).actions taken := by
  have side := pool.other_lt_weth
  rw [getWethAddress_eq] at side
  by_cases last : pool.other < wethAddress
  · rw [decide_eq_true last] at side
    have second : pool.isWethToken0 = false := by simpa using side.symm
    simp [backrunActions, Trade.actions, Trade.amountsOut, backrunTrade, last, second]
  · rw [decide_eq_false last] at side
    have first : pool.isWethToken0 = true := by simpa using side.symm
    simp [backrunActions, Trade.actions, Trade.amountsOut, backrunTrade, last, first]

/-- The pool lets the two transactions through at the prices they were made for. -/
theorem Sandwiches.priceGuard {target : TargetPool} {frontrun backrun : List Byte × Word}
    (performs : Sandwiches number target frontrun backrun spent bought sold taken)
    (same : target.toPool = pool.toPool) :
    PriceGuard number pool frontrun backrun spent bought sold taken where
  opens venue trader market ready := by
    rw [lands_iff performs.short.1 performs.opens, performs.performCalls_frontrun same,
      frontrunActions_eq]
    exact ready.accepts_iff
  closes venue trader market ready := by
    rw [lands_iff performs.short.2 performs.closes, performs.performCalls_backrun same,
      backrunActions_eq]
    exact ready.accepts_iff

end Lands

/-- Whatever happens in a run, the transactions of a bundle for one V2 pair of WETH go through exactly when
the contract can pay and the pair gives as much as they ask for. -/
theorem bundles_land_iff (config : Config) (nonce : Word) (blockOracle : BlockOracle)
    (allPools : AllPools) (wethBalance : Word) (steps : List (Bot × BotEvent)) (last : Bot)
    (run : BotRun config (.new nonce blockOracle allPools wethBalance) steps last) :
    ∀ sent ∈ last.sent, ∀ pool, sent.optimalSandwich.targetPools = [pool] →
      pool.poolVariant = .uniswapV2 → ∀ wethPool : WethPool, pool.toPool = wethPool.toPool →
        ∃ frontrun backrun spent bought sold taken, sent.Signs config frontrun backrun
          ∧ (frontrun.data, frontrun.value)
            = (sent.optimalSandwich.frontrun.data, sent.optimalSandwich.frontrun.value)
          ∧ (backrun.data, backrun.value)
            = (sent.optimalSandwich.backrun.data, sent.optimalSandwich.backrun.value)
          ∧ 0 < spent ∧ sold < bought ∧ 2 ^ 32 ∣ spent ∧ 2 ^ 32 ∣ taken
          ∧ PriceGuard (sent.targetBlock.number.setWidth 256) wethPool (frontrun.data, frontrun.value)
            (backrun.data, backrun.value) spent bought sold taken := by
  intro sent there pool single variant wethPool same
  obtain ⟨recipeBuilt, frontrun, backrun, signs, front, back⟩ := built_of_run run there
  obtain ⟨setup, meats, amountIn, quoted, bought, sold, amountOut, number, -, built⟩ :=
    recipeBuilt pool single
  have performs := built.sandwiches variant
  rw [number, ← front, ← back] at performs
  exact ⟨frontrun, backrun, _, bought, sold, _, signs, front, back, performs.spends, performs.sells,
    performs.rounds.1, performs.rounds.2, performs.priceGuard same⟩

theorem thinMarket_ready (spent : ℕ) : (frontrunTrade 2 usdcWethPool spent).Ready plainVenue thinMarket := by
  -- the amount does not matter
  have ready : (frontrunTrade 2 usdcWethPool 0).Ready plainVenue thinMarket :=
    { tokens := .inr ⟨by decide, by decide⟩
      sorted := by decide
      receives := ⟨by decide, ⟨by decide, by decide⟩, by decide⟩
      synced := ⟨rfl, by decide, by decide⟩
      small := by decide
      room := fun kind => by
        unfold held thinMarket
        dsimp only
        split_ifs <;> decide }
  exact ⟨ready.tokens, ready.sorted, ready.receives, ready.synced, ready.small, ready.room⟩

theorem bundles_land_iff_usdc : ∃ last : Bot, last.sent.length = 2 ∧ ∀ sent ∈ last.sent,
    ∃ frontrun backrun spent bought, sent.Signs plainConfig frontrun backrun
      ∧ (∃ after, Lands plainVenue 101 (frontrun.data, frontrun.value) 2 thinMarket after)
      ∧ (frontrunTrade 2 usdcWethPool spent).Fair plainVenue thinMarket bought := by
  obtain ⟨steps, last, run, length, known⟩ := exists_usdcBundles
  refine ⟨last, length, fun sent there => ?_⟩
  obtain ⟨pool, single, variant, same, number, opens, -⟩ := known sent there
  obtain ⟨frontrun, backrun, spent, bought, sold, taken, signs, front, -, -, -, -, -, guarded⟩ :=
    bundles_land_iff plainConfig 0 _ twoPairs 0 steps last run sent there pool single variant usdcWethPool
      same
  obtain ⟨after, inBlock⟩ := exists_inBlock_usdc
  obtain ⟨opened, -, lands, -⟩ := inBlock.lands
  rw [opens] at front
  rw [← front] at lands
  rw [number] at guarded
  have fair := ((guarded.opens plainVenue 2 thinMarket (thinMarket_ready spent)).mp ⟨opened, lands⟩).2
  exact ⟨frontrun, backrun, spent, bought, signs, ⟨opened, lands⟩, fair⟩

end Sando.Runner
