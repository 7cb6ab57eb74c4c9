/-
Trades with a pair.

`swap_isSome_iff` says when a swap of a pair succeeds, with nothing left out. A trade pays the pair in one
token and asks it for the other one; behind the payment the pair gives outputs up to the quote for what has
arrived, when anything has and not too much (`Trade.Ready.accepts_iff`).
-/

import Sando.Cfmm.Pair
import Sando.Cfmm.V2Quotes

namespace Sando.Cfmm

open Sando.Evm Sando.Curve

/-! ### The checks -/

section Checks

variable {venue : Venue} {market : Market} {pair receiver : Address}
  {reserve0 reserve1 arrived0 arrived1 amount0Out amount1Out : ℕ}

theorem isSome_guard_bind {α : Type} {condition : Prop} [Decidable condition] {rest : Unit → Option α} :
    ((guard condition : Option Unit).bind rest).isSome = true
      ↔ condition ∧ (rest ()).isSome = true := by
  by_cases holds : condition <;> simp [guard, holds]

theorem isSome_guard {condition : Prop} [Decidable condition] :
    (guard condition : Option Unit).isSome = true ↔ condition := by
  by_cases holds : condition <;> simp [guard, holds]

theorem adjusted_eq {balance amountIn : ℕ} (le : amountIn ≤ balance) (small : balance < 2 ^ 112) :
    adjusted balance amountIn = some (balance * 1000 - amountIn * 3) := by
  have scaled : balance * 1000 < 2 ^ 256 :=
    (Nat.mul_lt_mul_of_pos_right small (by decide)).trans (by norm_num)
  have fee : amountIn * 3 < 2 ^ 256 := lt_of_le_of_lt (by omega) scaled
  unfold adjusted
  rw [checked_of_lt scaled, checked_of_lt fee]
  exact if_pos (by omega)

theorem amountIn_eq {reserve arrived amountOut : ℕ} (le : amountOut ≤ reserve) :
    amountIn (reserve + arrived - amountOut) reserve amountOut = arrived := by
  unfold amountIn
  split_ifs <;> omega

/-- Nothing overflows in the product of the adjusted balances. -/
theorem adjusted_product_lt {balance0 balance1 fee0 fee1 : ℕ} (small0 : balance0 < 2 ^ 112)
    (small1 : balance1 < 2 ^ 112) :
    (balance0 * 1000 - fee0) * (balance1 * 1000 - fee1) < 2 ^ 256 := by
  have product : (2 : ℕ) ^ 112 * 1000 * (2 ^ 112 * 1000) < 2 ^ 256 := by norm_num
  have left : balance0 * 1000 - fee0 ≤ 2 ^ 112 * 1000 :=
    (Nat.sub_le _ _).trans (Nat.mul_le_mul_right 1000 small0.le)
  have right : balance1 * 1000 - fee1 ≤ 2 ^ 112 * 1000 :=
    (Nat.sub_le _ _).trans (Nat.mul_le_mul_right 1000 small1.le)
  exact (Nat.mul_le_mul left right).trans_lt product

/-- What a pair asks of a swap when something has arrived on top of its reserves. -/
structure Swappable (reserve0 reserve1 arrived0 arrived1 amount0Out amount1Out : ℕ) : Prop where
  output : 0 < amount0Out ∨ 0 < amount1Out
  liquid : amount0Out < reserve0 ∧ amount1Out < reserve1
  input : 0 < arrived0 ∨ 0 < arrived1
  product : reserve0 * reserve1 * 1000 ^ 2
    ≤ ((reserve0 + arrived0 - amount0Out) * 1000 - arrived0 * 3)
      * ((reserve1 + arrived1 - amount1Out) * 1000 - arrived1 * 3)
  small : reserve0 + arrived0 - amount0Out < 2 ^ 112 ∧ reserve1 + arrived1 - amount1Out < 2 ^ 112

/-- With small balances the input and the product are checked. -/
theorem checkK_isSome_iff (liquid : amount0Out < reserve0 ∧ amount1Out < reserve1)
    (small0 : reserve0 + arrived0 - amount0Out < 2 ^ 112)
    (small1 : reserve1 + arrived1 - amount1Out < 2 ^ 112) :
    (checkK (reserve0, reserve1) amount0Out amount1Out (reserve0 + arrived0 - amount0Out)
        (reserve1 + arrived1 - amount1Out)).isSome = true
      ↔ (0 < arrived0 ∨ 0 < arrived1)
        ∧ reserve0 * reserve1 * 1000 ^ 2
          ≤ ((reserve0 + arrived0 - amount0Out) * 1000 - arrived0 * 3)
            * ((reserve1 + arrived1 - amount1Out) * 1000 - arrived1 * 3) := by
  unfold checkK
  dsimp only
  rw [amountIn_eq liquid.1.le, amountIn_eq liquid.2.le, adjusted_eq (by omega) small0,
    adjusted_eq (by omega) small1, Option.bind_eq_bind, isSome_guard_bind]
  rw [Option.bind_eq_bind, Option.bind_some, Option.bind_some,
    checked_of_lt (adjusted_product_lt small0 small1), Option.bind_some]
  exact and_congr_right' isSome_guard

/-- Balances that pass become the reserves, when they are small. -/
theorem settle_isSome_iff {reserves : ℕ × ℕ} :
    (venue.settle pair reserves amount0Out amount1Out market).isSome = true
      ↔ (checkK reserves amount0Out amount1Out (market.balanceOf (venue.token0 pair) pair)
          (market.balanceOf (venue.token1 pair) pair)).isSome = true
        ∧ market.balanceOf (venue.token0 pair) pair < 2 ^ 112
        ∧ market.balanceOf (venue.token1 pair) pair < 2 ^ 112 := by
  unfold Venue.settle update
  dsimp only
  cases checkK reserves amount0Out amount1Out (market.balanceOf (venue.token0 pair) pair)
      (market.balanceOf (venue.token1 pair) pair) with
  | none => exact iff_of_false Bool.false_ne_true fun both => Bool.false_ne_true both.1
  | some _ =>
    rw [Option.bind_eq_bind, Option.bind_some]
    by_cases small : market.balanceOf (venue.token0 pair) pair < 2 ^ 112
        ∧ market.balanceOf (venue.token1 pair) pair < 2 ^ 112
    · rw [if_pos small]
      exact iff_of_true rfl ⟨rfl, small⟩
    · rw [if_neg small]
      exact iff_of_false Bool.false_ne_true fun both => small both.2

/-! ### Payments -/

theorem exists_transfer {token : Address} {value : ℕ} (apart : receiver ≠ pair)
    (enough : value ≤ market.balanceOf token pair)
    (room : market.balanceOf token receiver + venue.received token value < 2 ^ 256) :
    ∃ after, venue.transfer token pair receiver value market = some after := by
  have same : (market.setBalance token pair (market.balanceOf token pair - value)).balanceOf token
      receiver = market.balanceOf token receiver := if_neg fun both => apart both.2
  unfold Venue.transfer Market.debit
  rw [if_pos enough, Option.bind_eq_bind, Option.bind_some, Market.credit, same, if_pos room]
  exact ⟨_, rfl⟩

/-- A pair that has enough can pay somebody else who has room. -/
theorem exists_pay {token : Address} {value : ℕ} (apart : receiver ≠ pair)
    (enough : value ≤ market.balanceOf token pair) (room : held receiver pair token market < 2 ^ 256) :
    ∃ after, venue.pay token pair receiver value market = some after
      ∧ after.balanceOf token pair = market.balanceOf token pair - value
      ∧ ∀ other ≠ token, after.balanceOf other = market.balanceOf other := by
  by_cases positive : 0 < value
  · have arrives := venue.received_le token value
    obtain ⟨after, moved⟩ := exists_transfer apart enough
      (lt_of_le_of_lt (Nat.add_le_add_left (arrives.trans enough) _) room)
    have balances := transfer_balanceOf moved
    refine ⟨after, by rw [Venue.pay, if_pos positive, moved], ?_, fun other different => ?_⟩
    · have paid := balances token pair
      rw [if_pos ⟨rfl, rfl⟩, if_neg fun both => apart both.2.symm, Nat.add_zero] at paid
      exact Nat.eq_sub_of_add_eq paid
    · funext owner
      have kept := balances other owner
      rwa [if_neg fun both => different both.1, if_neg fun both => different both.1, Nat.add_zero,
        Nat.add_zero] at kept
  · refine ⟨market, by rw [Venue.pay, if_neg positive], ?_, fun _ _ => rfl⟩
    rw [Nat.eq_zero_of_not_pos positive, Nat.sub_zero]

/-- Somebody whom a pair can pay. -/
structure Receives (venue : Venue) (pair receiver : Address) : Prop where
  apart : receiver ≠ pair
  valid : receiver ≠ venue.token0 pair ∧ receiver ≠ venue.token1 pair
  distinct : venue.token0 pair ≠ venue.token1 pair

/-- A swap succeeds when the pair gets what it asks for. -/
theorem swap_isSome_iff (receives : Receives venue pair receiver)
    (reserves : market.getReserves pair = (reserve0, reserve1))
    (balance0 : market.balanceOf (venue.token0 pair) pair = reserve0 + arrived0)
    (balance1 : market.balanceOf (venue.token1 pair) pair = reserve1 + arrived1)
    (room : ∀ kind, held receiver pair kind market < 2 ^ 256) :
    (venue.swap pair receiver amount0Out amount1Out market).isSome = true
      ↔ Swappable reserve0 reserve1 arrived0 arrived1 amount0Out amount1Out := by
  unfold Venue.swap
  dsimp only
  rw [Option.bind_eq_bind, isSome_guard_bind, isSome_guard_bind, isSome_guard_bind, reserves,
    and_iff_right receives.valid]
  by_cases liquid : amount0Out < reserve0 ∧ amount1Out < reserve1
  · obtain ⟨first, once, left0, kept0⟩ : ∃ first,
        venue.pay (venue.token0 pair) pair receiver amount0Out market = some first ∧ _ :=
      exists_pay receives.apart (by omega) (room _)
    have same := kept0 _ receives.distinct.symm
    obtain ⟨second, twice, left1, kept1⟩ : ∃ second,
        venue.pay (venue.token1 pair) pair receiver amount1Out first = some second ∧ _ :=
      exists_pay receives.apart (by rw [same]; omega) (by rw [held, same]; exact room _)
    rw [same, balance1] at left1
    rw [← kept1 _ receives.distinct, balance0] at left0
    rw [once, Option.bind_eq_bind, Option.bind_some, twice, Option.bind_some, settle_isSome_iff, left0,
      left1]
    constructor
    · rintro ⟨output, -, checks, small⟩
      obtain ⟨input, product⟩ := (checkK_isSome_iff liquid small.1 small.2).mp checks
      exact ⟨output, liquid, input, product, small⟩
    · rintro ⟨output, -, input, product, small⟩
      exact ⟨output, liquid, (checkK_isSome_iff liquid small.1 small.2).mpr ⟨input, product⟩, small⟩
  · exact iff_of_false (fun all => liquid all.2.1) fun swappable => liquid swappable.liquid

theorem Swappable.symm
    (swappable : Swappable reserve0 reserve1 arrived0 arrived1 amount0Out amount1Out) :
    Swappable reserve1 reserve0 arrived1 arrived0 amount1Out amount0Out where
  output := swappable.output.symm
  liquid := swappable.liquid.symm
  input := swappable.input.symm
  product := by
    rw [Nat.mul_comm reserve1, Nat.mul_comm ((_ - amount1Out) * _ - _)]
    exact swappable.product
  small := swappable.small.symm

/-- When only the first token comes in and only the second one goes out. -/
theorem swappable_iff (inside : 0 < reserve0) (small : reserve1 < 2 ^ 112) :
    Swappable reserve0 reserve1 arrived0 0 0 amount1Out
      ↔ 0 < amount1Out ∧ amount1Out < reserve1 ∧ 0 < arrived0 ∧ reserve0 + arrived0 < 2 ^ 112
        ∧ PassesK reserve0 reserve1 arrived0 amount1Out := by
  have passes : PassesK reserve0 reserve1 arrived0 amount1Out
      ↔ reserve0 * reserve1 * 1000 ^ 2
        ≤ ((reserve0 + arrived0 - 0) * 1000 - arrived0 * 3)
          * ((reserve1 + 0 - amount1Out) * 1000 - 0 * 3) := by
    rw [PassesK, Nat.mul_comm 3, Nat.zero_mul, Nat.sub_zero, Nat.sub_zero, Nat.add_zero, ← Nat.mul_assoc]
  rw [passes]
  constructor
  · rintro ⟨output, liquid, input, product, fits⟩
    exact ⟨output.resolve_left (lt_irrefl 0), liquid.2, input.resolve_right (lt_irrefl 0), fits.1, product⟩
  · rintro ⟨output, liquid, input, fits, product⟩
    exact ⟨.inr output, ⟨inside, liquid⟩, .inl input, product, fits, lt_of_le_of_lt (Nat.sub_le _ _) small⟩

end Checks

/-! ### Trades -/

/-- Somebody pays an amount of one token of a pair for the other one. -/
structure Trade where
  trader : Address
  pair : Address
  tokenIn : Address
  tokenOut : Address
  amountIn : ℕ

namespace Trade

/-- The outputs that the pair is asked for. -/
def amountsOut (trade : Trade) (output : ℕ) : ℕ × ℕ :=
  if trade.tokenIn < trade.tokenOut then (0, output) else (output, 0)

def actions (trade : Trade) (output : ℕ) : List Action :=
  [.transfer trade.tokenIn trade.trader trade.pair trade.amountIn,
    .swap trade.pair trade.trader (trade.amountsOut output).1 (trade.amountsOut output).2]

/-- The trade goes through, and the pair gives the output. -/
def Accepts (venue : Venue) (trade : Trade) (market : Market) (output : ℕ) : Prop :=
  (venue.performAll (trade.actions output) market).isSome = true

/-- What the pair gives for what arrives. -/
def quoted (trade : Trade) (venue : Venue) (market : Market) : ℕ :=
  quote 997 1000 (market.balanceOf trade.tokenIn trade.pair) (market.balanceOf trade.tokenOut trade.pair)
    (venue.received trade.tokenIn trade.amountIn)

/-- The tokens of the pair are sorted and its reserves are its balances. -/
structure Ready (venue : Venue) (trade : Trade) (market : Market) : Prop where
  tokens : IsPair venue trade.pair trade.tokenIn trade.tokenOut
  sorted : venue.token0 trade.pair < venue.token1 trade.pair
  receives : Receives venue trade.pair trade.trader
  synced : Synced venue trade.pair market
  small : market.balanceOf trade.tokenIn trade.pair < 2 ^ 112
    ∧ market.balanceOf trade.tokenOut trade.pair < 2 ^ 112
  room : ∀ kind, held trade.trader trade.pair kind market < 2 ^ 256

/-- Something arrives and not too much, and the output is at most the quote for it. -/
structure Fair (venue : Venue) (trade : Trade) (market : Market) (output : ℕ) : Prop where
  arrives : 0 < venue.received trade.tokenIn trade.amountIn
  fits : market.balanceOf trade.tokenIn trade.pair + venue.received trade.tokenIn trade.amountIn < 2 ^ 112
  positive : 0 < output
  le_quoted : output ≤ trade.quoted venue market

section Ready

variable {venue : Venue} {trade : Trade} {market sent : Market} {output : ℕ}

theorem Ready.distinct (ready : trade.Ready venue market) : trade.tokenIn ≠ trade.tokenOut := by
  obtain ⟨first, second⟩ | ⟨first, second⟩ := ready.tokens
  · rw [← first, ← second]
    exact ready.receives.distinct
  · rw [← first, ← second]
    exact ready.receives.distinct.symm

/-- After the transfer only the pair has more. -/
theorem Ready.sent_balanceOf (ready : trade.Ready venue market)
    (transferred : venue.transfer trade.tokenIn trade.trader trade.pair trade.amountIn market = some sent) :
    sent.balanceOf trade.tokenIn trade.pair
        = market.balanceOf trade.tokenIn trade.pair + venue.received trade.tokenIn trade.amountIn
      ∧ sent.balanceOf trade.tokenOut trade.pair = market.balanceOf trade.tokenOut trade.pair := by
  have balances := transfer_balanceOf transferred
  constructor
  · have arrived := balances trade.tokenIn trade.pair
    rwa [if_neg fun both => ready.receives.apart both.2.symm, if_pos ⟨rfl, rfl⟩, Nat.add_zero] at arrived
  · have kept := balances trade.tokenOut trade.pair
    rwa [if_neg fun both => ready.distinct both.1.symm, if_neg fun both => ready.distinct both.1.symm,
      Nat.add_zero, Nat.add_zero] at kept

/-- Something must arrive, and not too much, so that an output passes that keeps the product. -/
theorem Ready.swap_iff (ready : trade.Ready venue market)
    (transferred : venue.transfer trade.tokenIn trade.trader trade.pair trade.amountIn market = some sent) :
    (venue.swap trade.pair trade.trader (trade.amountsOut output).1 (trade.amountsOut output).2
        sent).isSome = true
      ↔ 0 < output ∧ output < market.balanceOf trade.tokenOut trade.pair
        ∧ 0 < venue.received trade.tokenIn trade.amountIn
        ∧ market.balanceOf trade.tokenIn trade.pair + venue.received trade.tokenIn trade.amountIn < 2 ^ 112
        ∧ PassesK (market.balanceOf trade.tokenIn trade.pair) (market.balanceOf trade.tokenOut trade.pair)
          (venue.received trade.tokenIn trade.amountIn) output := by
  obtain ⟨arrived, kept⟩ := ready.sent_balanceOf transferred
  have reserves := (congrFun (transfer_getReserves transferred) trade.pair).trans ready.synced.reserves
  have room : ∀ kind, held trade.trader trade.pair kind sent < 2 ^ 256 := by
    intro kind
    have moved : held trade.trader trade.pair kind sent ≤ _ :=
      transfer_held ready.receives.apart transferred
    rw [inflow, if_neg fun all => all.2.1 (.inl rfl)] at moved
    exact moved.trans_lt (ready.room kind)
  obtain ⟨positiveIn, -⟩ := ready.synced.positive ready.tokens
  obtain ⟨first, second⟩ | ⟨first, second⟩ := ready.tokens
  · have ascending : trade.tokenIn < trade.tokenOut := first ▸ second ▸ ready.sorted
    rw [first, second] at reserves
    rw [amountsOut, if_pos ascending, swap_isSome_iff ready.receives reserves (by rw [first, arrived])
      (by rw [second, kept, Nat.add_zero]) room]
    exact swappable_iff positiveIn ready.small.2
  · have descending : ¬ trade.tokenIn < trade.tokenOut := BitVec.lt_asymm (first ▸ second ▸ ready.sorted)
    rw [first, second] at reserves
    rw [amountsOut, if_neg descending, swap_isSome_iff ready.receives reserves
      (by rw [first, kept, Nat.add_zero]) (by rw [second, arrived]) room]
    refine Iff.trans ⟨Swappable.symm, Swappable.symm⟩ ?_
    exact swappable_iff positiveIn ready.small.2

/-- The trader is not a pair that it trades with. -/
theorem actions_proper {pair : Address} (apart : trade.trader ≠ pair) :
    ∀ action ∈ trade.actions output, action.Proper pair := by
  simp only [actions, List.forall_mem_cons]
  exact ⟨apart, trivial, by simp⟩

/-- A trade brings nothing to the trader and the pair together. -/
theorem bringsAll_actions (kind : Address) :
    venue.bringsAll trade.trader trade.pair kind (trade.actions output) = 0 := by
  simp [Venue.bringsAll, Venue.brings, inflow, actions]

/-- Behind the payment a trade is its swap. -/
theorem performAll_actions
    (transferred : venue.transfer trade.tokenIn trade.trader trade.pair trade.amountIn market = some sent) :
    venue.performAll (trade.actions output) market
      = venue.swap trade.pair trade.trader (trade.amountsOut output).1 (trade.amountsOut output).2 sent := by
  show (venue.transfer _ _ _ _ market).bind _ = _
  rw [transferred]
  show (venue.swap _ _ _ _ sent).bind some = _
  rw [Option.bind_fun_some]

theorem accepts_iff_swap
    (transferred : venue.transfer trade.tokenIn trade.trader trade.pair trade.amountIn market = some sent) :
    trade.Accepts venue market output
      ↔ (venue.swap trade.pair trade.trader (trade.amountsOut output).1 (trade.amountsOut output).2
        sent).isSome = true := by
  rw [Accepts, performAll_actions transferred]

/-- Behind the payment a trade goes through when it is fair. -/
theorem Ready.fair_iff (ready : trade.Ready venue market)
    (transferred : venue.transfer trade.tokenIn trade.trader trade.pair trade.amountIn market = some sent) :
    trade.Accepts venue market output ↔ trade.Fair venue market output := by
  obtain ⟨positiveIn, positiveOut⟩ := ready.synced.positive ready.tokens
  have inside : 0 < market.balanceOf trade.tokenIn trade.pair * 1000 :=
    Nat.mul_pos positiveIn (by decide)
  have below : trade.quoted venue market < market.balanceOf trade.tokenOut trade.pair :=
    quote_lt inside positiveOut
  have keeps : KeepsProduct 997 1000 _ _ _ output ↔ output ≤ trade.quoted venue market :=
    keepsProduct_iff inside positiveOut
  rw [accepts_iff_swap transferred, ready.swap_iff transferred, passesK_iff, keeps]
  constructor
  · rintro ⟨positive, -, arrives, fits, le⟩
    exact ⟨arrives, fits, positive, le⟩
  · rintro ⟨arrives, fits, positive, le⟩
    exact ⟨positive, lt_of_le_of_lt le below, arrives, fits, le⟩

/-- A trade goes through when the trader can pay and it is fair. -/
theorem Ready.accepts_iff (ready : trade.Ready venue market) :
    trade.Accepts venue market output
      ↔ trade.amountIn ≤ market.balanceOf trade.tokenIn trade.trader ∧ trade.Fair venue market output := by
  constructor
  · intro accepted
    obtain ⟨after, performed⟩ := Option.isSome_iff_exists.mp accepted
    obtain ⟨sent, transferred, -⟩ := Option.bind_eq_some_iff.mp performed
    have paid := transfer_balanceOf transferred trade.tokenIn trade.trader
    rw [if_pos ⟨rfl, rfl⟩, if_neg fun both => ready.receives.apart both.2] at paid
    exact ⟨by omega, (ready.fair_iff transferred).mp accepted⟩
  · rintro ⟨enough, fair⟩
    have room : market.balanceOf trade.tokenIn trade.pair + venue.received trade.tokenIn trade.amountIn
        < 2 ^ 256 := fair.fits.trans (by norm_num)
    obtain ⟨sent, transferred⟩ := exists_transfer (Ne.symm ready.receives.apart) enough room
    exact (ready.fair_iff transferred).mpr fair

end Ready

end Trade

end Sando.Cfmm
