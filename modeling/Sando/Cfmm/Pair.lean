/-
V2 pairs and their tokens.

`Venue.swap` is the swap of a pair without a callback: it pays out first, reads its balances and lets the
swap through when the product of the reserves does not fall. Of a transfer less may arrive than was sent.
Whoever deals with a pair moves tokens from and to it, and the two together never get more than they had,
unless somebody else brings something. So a trader who ends with no less of the one token has of the other
one at most what he had, what was brought of it, and what the pair gives without a fee for what was
brought of the first (`Kept.gain_le`).
-/

import Sando.Curve.ConstantProduct
import Sando.Evm.Checked
import Sando.Evm.Machine

namespace Sando.Cfmm

open Sando.Evm Sando.Curve

/-! ### Tokens -/

/-- The balances of all tokens, and what the pairs remember. -/
structure Market where
  balanceOf : Address → Address → ℕ
  getReserves : Address → ℕ × ℕ

/-- The tokens of the pairs, and how much of a transfer arrives. -/
structure Venue where
  token0 : Address → Address
  token1 : Address → Address
  received : Address → ℕ → ℕ
  received_le : ∀ token value, received token value ≤ value

namespace Market

def setBalance (market : Market) (token owner : Address) (balance : ℕ) : Market :=
  { market with balanceOf := fun other holder =>
      if other = token ∧ holder = owner then balance else market.balanceOf other holder }

/-- Take tokens from an owner who has them. -/
def debit (token owner : Address) (value : ℕ) (market : Market) : Option Market :=
  if value ≤ market.balanceOf token owner then
    some (market.setBalance token owner (market.balanceOf token owner - value))
  else none

/-- Give tokens to an owner, whose balance must not overflow. -/
def credit (token owner : Address) (value : ℕ) (market : Market) : Option Market :=
  if market.balanceOf token owner + value < 2 ^ 256 then
    some (market.setBalance token owner (market.balanceOf token owner + value))
  else none

section Balances

variable {market after : Market} {token owner : Address} {value : ℕ}

theorem getReserves_debit (taken : market.debit token owner value = some after) :
    after.getReserves = market.getReserves := by
  unfold debit at taken
  split_ifs at taken
  cases taken
  rfl

theorem getReserves_credit (given : market.credit token owner value = some after) :
    after.getReserves = market.getReserves := by
  unfold credit at given
  split_ifs at given
  cases given
  rfl

theorem balanceOf_debit (taken : market.debit token owner value = some after) (kind holder : Address) :
    after.balanceOf kind holder + (if kind = token ∧ holder = owner then value else 0)
      = market.balanceOf kind holder := by
  unfold debit at taken
  split_ifs at taken with enough
  cases taken
  unfold setBalance
  dsimp only
  split_ifs with here
  · obtain ⟨rfl, rfl⟩ := here
    exact Nat.sub_add_cancel enough
  · rfl

theorem balanceOf_credit (given : market.credit token owner value = some after) (kind holder : Address) :
    after.balanceOf kind holder
      = market.balanceOf kind holder + (if kind = token ∧ holder = owner then value else 0) := by
  unfold credit at given
  split_ifs at given
  cases given
  unfold setBalance
  dsimp only
  split_ifs with here
  · obtain ⟨rfl, rfl⟩ := here
    rfl
  · rfl

end Balances

end Market

/-! ### Pairs -/

/-- A balance in thousandths, less the fee. -/
def adjusted (balance amountIn : ℕ) : Option ℕ := do
  let scaled ← checked (balance * 1000)
  let fee ← checked (amountIn * 3)
  if fee ≤ scaled then some (scaled - fee) else none

/-- What came in: a balance beyond what is left of a reserve. -/
def amountIn (balance reserve amountOut : ℕ) : ℕ :=
  if reserve - amountOut < balance then balance - (reserve - amountOut) else 0

/-- The checks behind the payments, on the balances that are left. -/
def checkK (reserves : ℕ × ℕ) (amount0Out amount1Out balance0 balance1 : ℕ) : Option Unit := do
  let amount0In := amountIn balance0 reserves.1 amount0Out
  let amount1In := amountIn balance1 reserves.2 amount1Out
  guard (0 < amount0In ∨ 0 < amount1In) -- INSUFFICIENT_INPUT_AMOUNT
  let balance0Adjusted ← adjusted balance0 amount0In
  let balance1Adjusted ← adjusted balance1 amount1In
  let product ← checked (balance0Adjusted * balance1Adjusted)
  guard (reserves.1 * reserves.2 * 1000 ^ 2 ≤ product) -- K

/-- Update the reserves of a pair. -/
def update (pair : Address) (balance0 balance1 : ℕ) (market : Market) : Option Market :=
  if balance0 < 2 ^ 112 ∧ balance1 < 2 ^ 112 then -- OVERFLOW
    some { market with getReserves := fun other =>
      if other = pair then (balance0, balance1) else market.getReserves other }
  else none

namespace Venue

variable (venue : Venue)

/-- Transfer tokens. The receiver gets what is left of the value. -/
def transfer (token sender receiver : Address) (value : ℕ) (market : Market) : Option Market := do
  let market ← market.debit token sender value
  market.credit token receiver (venue.received token value)

/-- Pay out of a pair. -/
def pay (token pair receiver : Address) (amountOut : ℕ) (market : Market) : Option Market :=
  -- optimistically transfer tokens
  if 0 < amountOut then venue.transfer token pair receiver amountOut market else some market

/-- Take the balances that are left as the reserves, when they pass the checks. -/
def settle (pair : Address) (reserves : ℕ × ℕ) (amount0Out amount1Out : ℕ) (market : Market) :
    Option Market := do
  let balance0 := market.balanceOf (venue.token0 pair) pair
  let balance1 := market.balanceOf (venue.token1 pair) pair
  checkK reserves amount0Out amount1Out balance0 balance1
  update pair balance0 balance1 market

/-- The swap of a pair, without data for a callback. -/
def swap (pair receiver : Address) (amount0Out amount1Out : ℕ) (market : Market) : Option Market := do
  guard (0 < amount0Out ∨ 0 < amount1Out) -- INSUFFICIENT_OUTPUT_AMOUNT
  let reserves := market.getReserves pair
  guard (amount0Out < reserves.1 ∧ amount1Out < reserves.2) -- INSUFFICIENT_LIQUIDITY
  guard (receiver ≠ venue.token0 pair ∧ receiver ≠ venue.token1 pair) -- INVALID_TO
  let market ← venue.pay (venue.token0 pair) pair receiver amount0Out market
  let market ← venue.pay (venue.token1 pair) pair receiver amount1Out market
  venue.settle pair reserves amount0Out amount1Out market

end Venue

/-- What somebody does on the market. A deposit into WETH mints and a withdrawal burns. -/
inductive Action
  | transfer (token sender receiver : Address) (value : ℕ)
  | mint (token owner : Address) (value : ℕ)
  | burn (token owner : Address) (value : ℕ)
  | swap (pair receiver : Address) (amount0Out amount1Out : ℕ)

def Venue.perform (venue : Venue) : Action → Market → Option Market
  | .transfer token sender receiver value, market => venue.transfer token sender receiver value market
  | .mint token owner value, market => market.credit token owner value
  | .burn token owner value, market => market.debit token owner value
  | .swap pair receiver amount0Out amount1Out, market =>
    venue.swap pair receiver amount0Out amount1Out market

/-- Tokens leave a pair in its swaps only. -/
def Action.Proper (pair : Address) : Action → Prop
  | .transfer _ sender _ _ => sender ≠ pair
  | .burn _ owner _ => owner ≠ pair
  | .mint .. | .swap .. => True

/-! ### What comes in -/

section Held

variable (trader pair kind : Address)

/-- What two owners hold together. -/
def held (market : Market) : ℕ := market.balanceOf kind trader + market.balanceOf kind pair

/-- What a transfer brings to two owners from outside. -/
def inflow (token sender receiver : Address) (value : ℕ) : ℕ :=
  if kind = token ∧ ¬ (sender = trader ∨ sender = pair) ∧ (receiver = trader ∨ receiver = pair) then value
  else 0

/-- What an action brings to two owners from outside. -/
def Venue.brings (venue : Venue) : Action → ℕ
  | .transfer token sender receiver value => inflow trader pair kind token sender receiver value
  | .mint token owner value => if kind = token ∧ (owner = trader ∨ owner = pair) then value else 0
  | .burn .. => 0
  | .swap other receiver amount0Out amount1Out =>
    inflow trader pair kind (venue.token0 other) other receiver amount0Out
      + inflow trader pair kind (venue.token1 other) other receiver amount1Out

end Held

section Steps

variable {venue : Venue} {market after : Market} {token sender receiver trader pair other kind : Address}
  {value balance0 balance1 : ℕ}

theorem transfer_getReserves (moved : venue.transfer token sender receiver value market = some after) :
    after.getReserves = market.getReserves := by
  obtain ⟨between, taken, given⟩ := Option.bind_eq_some_iff.mp moved
  exact (Market.getReserves_credit given).trans (Market.getReserves_debit taken)

/-- A transfer takes the value from the sender, and what arrives goes to the receiver. -/
theorem transfer_balanceOf (moved : venue.transfer token sender receiver value market = some after)
    (kind owner : Address) :
    after.balanceOf kind owner + (if kind = token ∧ owner = sender then value else 0)
      = market.balanceOf kind owner
        + (if kind = token ∧ owner = receiver then venue.received token value else 0) := by
  obtain ⟨between, taken, given⟩ := Option.bind_eq_some_iff.mp moved
  have debited := Market.balanceOf_debit taken kind owner
  have credited := Market.balanceOf_credit given kind owner
  omega

theorem transfer_held (apart : trader ≠ pair)
    (moved : venue.transfer token sender receiver value market = some after) :
    held trader pair kind after
      ≤ held trader pair kind market + inflow trader pair kind token sender receiver value := by
  have arrives := venue.received_le token value
  have mine := transfer_balanceOf moved kind trader
  have its := transfer_balanceOf moved kind pair
  unfold held inflow
  grind

/-- Nobody but the sender has less. -/
theorem transfer_balanceOf_le (moved : venue.transfer token sender receiver value market = some after)
    (apart : sender ≠ other) : market.balanceOf kind other ≤ after.balanceOf kind other := by
  have moved := transfer_balanceOf moved kind other
  rw [if_neg fun both => apart both.2.symm, Nat.add_zero] at moved
  exact moved ▸ Nat.le_add_right _ _

/-! ### What a swap does -/

theorem pay_eq_some (paid : venue.pay token sender receiver value market = some after) :
    after = market ∨ venue.transfer token sender receiver value market = some after := by
  unfold Venue.pay at paid
  split_ifs at paid
  · exact .inr paid
  · exact .inl (Option.some.inj paid).symm

theorem pay_getReserves (paid : venue.pay token sender receiver value market = some after) :
    after.getReserves = market.getReserves := by
  obtain rfl | moved := pay_eq_some paid
  · rfl
  · exact transfer_getReserves moved

theorem pay_held (apart : trader ≠ pair)
    (paid : venue.pay token sender receiver value market = some after) :
    held trader pair kind after
      ≤ held trader pair kind market + inflow trader pair kind token sender receiver value := by
  obtain rfl | moved := pay_eq_some paid
  · exact Nat.le_add_right _ _
  · exact transfer_held apart moved

theorem pay_balanceOf_le (paid : venue.pay token sender receiver value market = some after)
    (apart : sender ≠ other) : market.balanceOf kind other ≤ after.balanceOf kind other := by
  obtain rfl | moved := pay_eq_some paid
  · exact le_rfl
  · exact transfer_balanceOf_le moved apart

/-- The fee only lowers a balance. -/
theorem adjusted_le {balance amountIn result : ℕ} (lowered : adjusted balance amountIn = some result) :
    result ≤ balance * 1000 := by
  obtain ⟨scaled, fits, lowered⟩ := Option.bind_eq_some_iff.mp lowered
  obtain ⟨fee, -, lowered⟩ := Option.bind_eq_some_iff.mp lowered
  split_ifs at lowered
  obtain ⟨rfl, -⟩ := checked_eq_some fits
  exact Option.some.inj lowered ▸ Nat.sub_le _ _

theorem update_eq_some (updated : update pair balance0 balance1 market = some after) :
    after.balanceOf = market.balanceOf ∧ after.getReserves pair = (balance0, balance1)
      ∧ ∀ other ≠ pair, after.getReserves other = market.getReserves other := by
  unfold update at updated
  split_ifs at updated
  cases updated
  exact ⟨rfl, if_pos rfl, fun other apart => if_neg apart⟩

/-- A swap that is let through leaves the balances as reserves, and their product has not fallen. -/
theorem settle_eq_some {reserves : ℕ × ℕ} {amount0Out amount1Out : ℕ}
    (settled : venue.settle pair reserves amount0Out amount1Out market = some after) :
    update pair (market.balanceOf (venue.token0 pair) pair) (market.balanceOf (venue.token1 pair) pair)
        market = some after
      ∧ reserves.1 * reserves.2
        ≤ market.balanceOf (venue.token0 pair) pair * market.balanceOf (venue.token1 pair) pair := by
  obtain ⟨_, checks, settled⟩ := Option.bind_eq_some_iff.mp settled
  obtain ⟨-, -, checks⟩ := Option.bind_eq_some_iff.mp checks
  obtain ⟨adjusted0, first, checks⟩ := Option.bind_eq_some_iff.mp checks
  obtain ⟨adjusted1, second, checks⟩ := Option.bind_eq_some_iff.mp checks
  obtain ⟨product, third, high⟩ := Option.bind_eq_some_iff.mp checks
  have high : reserves.1 * reserves.2 * 1000 ^ 2 ≤ product := by simpa using high
  refine ⟨settled, ?_⟩
  have scaled : product ≤ market.balanceOf (venue.token0 pair) pair * 1000
      * (market.balanceOf (venue.token1 pair) pair * 1000) := by
    rw [(checked_eq_some third).1]
    exact Nat.mul_le_mul (adjusted_le first) (adjusted_le second)
  -- the check of the product, in thousandths
  apply Nat.le_of_mul_le_mul_right _ (show 0 < 1000 ^ 2 by decide)
  calc reserves.1 * reserves.2 * 1000 ^ 2 ≤ product := high
    _ ≤ _ := scaled
    _ = _ := by ring

/-- A swap pays twice and settles. -/
theorem swap_eq_some {amount0Out amount1Out : ℕ}
    (swapped : venue.swap pair receiver amount0Out amount1Out market = some after) :
    ∃ first second, venue.pay (venue.token0 pair) pair receiver amount0Out market = some first
      ∧ venue.pay (venue.token1 pair) pair receiver amount1Out first = some second
      ∧ venue.settle pair (market.getReserves pair) amount0Out amount1Out second = some after := by
  obtain ⟨-, -, swapped⟩ := Option.bind_eq_some_iff.mp swapped
  obtain ⟨-, -, swapped⟩ := Option.bind_eq_some_iff.mp swapped
  obtain ⟨-, -, swapped⟩ := Option.bind_eq_some_iff.mp swapped
  obtain ⟨first, once, swapped⟩ := Option.bind_eq_some_iff.mp swapped
  obtain ⟨second, twice, settled⟩ := Option.bind_eq_some_iff.mp swapped
  exact ⟨first, second, once, twice, settled⟩

/-! ### What every action keeps -/

/-- Two owners get nothing but what an action brings. -/
theorem perform_held {action : Action} (apart : trader ≠ pair)
    (performed : venue.perform action market = some after) :
    held trader pair kind after
      ≤ held trader pair kind market + venue.brings trader pair kind action := by
  cases action with
  | transfer token sender receiver value => exact transfer_held apart performed
  | mint token owner value =>
    have mine := Market.balanceOf_credit performed kind trader
    have its := Market.balanceOf_credit performed kind pair
    unfold held Venue.brings
    grind
  | burn token owner value =>
    have mine := Market.balanceOf_debit performed kind trader
    have its := Market.balanceOf_debit performed kind pair
    unfold held
    omega
  | swap other receiver amount0Out amount1Out =>
    obtain ⟨first, second, once, twice, settled⟩ := swap_eq_some performed
    have same := (update_eq_some (settle_eq_some settled).1).1
    have one : held trader pair kind first ≤ held trader pair kind market
        + inflow trader pair kind (venue.token0 other) other receiver amount0Out := pay_held apart once
    have two : held trader pair kind second ≤ held trader pair kind first
        + inflow trader pair kind (venue.token1 other) other receiver amount1Out := pay_held apart twice
    have three : held trader pair kind after = held trader pair kind second := by rw [held, held, same]
    show _ ≤ _ + (_ + _)
    omega

/-- A pair has its reserves, and their product has not fallen below a floor. -/
structure Backed (venue : Venue) (pair : Address) (floor : ℕ) (market : Market) : Prop where
  floor_le : floor ≤ (market.getReserves pair).1 * (market.getReserves pair).2
  reserve0_le : (market.getReserves pair).1 ≤ market.balanceOf (venue.token0 pair) pair
  reserve1_le : (market.getReserves pair).2 ≤ market.balanceOf (venue.token1 pair) pair

/-- It stays so when the reserves are kept and the balances do not fall. -/
theorem Backed.mono {floor : ℕ} (backed : Backed venue pair floor market)
    (same : after.getReserves pair = market.getReserves pair)
    (grown : ∀ kind, market.balanceOf kind pair ≤ after.balanceOf kind pair) :
    Backed venue pair floor after where
  floor_le := by rw [same]; exact backed.floor_le
  reserve0_le := by rw [same]; exact backed.reserve0_le.trans (grown _)
  reserve1_le := by rw [same]; exact backed.reserve1_le.trans (grown _)

theorem perform_backed {action : Action} {floor : ℕ} (proper : action.Proper pair)
    (backed : Backed venue pair floor market)
    (performed : venue.perform action market = some after) : Backed venue pair floor after := by
  cases action with
  | transfer token sender receiver value =>
    exact backed.mono (congrFun (transfer_getReserves performed) pair)
      fun kind => transfer_balanceOf_le performed proper
  | mint token owner value =>
    refine backed.mono (congrFun (Market.getReserves_credit performed) pair) fun kind => ?_
    rw [Market.balanceOf_credit performed]
    exact Nat.le_add_right _ _
  | burn token owner value =>
    refine backed.mono (congrFun (Market.getReserves_debit performed) pair) fun kind => ?_
    have debited := Market.balanceOf_debit performed kind pair
    rw [if_neg fun both => proper both.2.symm] at debited
    exact debited.ge
  | swap other receiver amount0Out amount1Out =>
    obtain ⟨first, second, once, twice, settled⟩ := swap_eq_some performed
    obtain ⟨updated, product⟩ := settle_eq_some settled
    obtain ⟨balances, here, elsewhere⟩ := update_eq_some updated
    have kept : second.getReserves = market.getReserves :=
      (pay_getReserves twice).trans (pay_getReserves once)
    by_cases same : other = pair
    · -- its own swap: the balances are the reserves now
      subst same
      refine ⟨?_, ?_, ?_⟩ <;> rw [here]
      · exact backed.floor_le.trans product
      · rw [balances]
      · rw [balances]
    · -- another pair only pays in
      refine backed.mono ((elsewhere pair (Ne.symm same)).trans (congrFun kept pair)) fun kind => ?_
      rw [balances]
      exact (pay_balanceOf_le once same).trans (pay_balanceOf_le twice same)

end Steps

/-! ### Runs -/

/-- What is kept from a start on, when `paid` was brought since. -/
structure Kept (venue : Venue) (trader pair : Address) (start : Market) (paid : Address → ℕ)
    (market : Market) : Prop where
  backed : Backed venue pair ((start.getReserves pair).1 * (start.getReserves pair).2) market
  held_le : ∀ kind, held trader pair kind market ≤ held trader pair kind start + paid kind

/-- A pair whose reserves are its balances, and not zero. -/
structure Synced (venue : Venue) (pair : Address) (market : Market) : Prop where
  reserves : market.getReserves pair
    = (market.balanceOf (venue.token0 pair) pair, market.balanceOf (venue.token1 pair) pair)
  positive0 : 0 < market.balanceOf (venue.token0 pair) pair
  positive1 : 0 < market.balanceOf (venue.token1 pair) pair

section Runs

variable (venue : Venue) (trader pair : Address)

/-- Perform actions one after the other, and count what they bring. -/
def Venue.performAll : List Action → Market → Option Market
  | [], market => some market
  | action :: actions, market => do
    let market ← venue.perform action market
    performAll actions market

/-- What actions bring. -/
def Venue.bringsAll (kind : Address) (actions : List Action) : ℕ :=
  (actions.map (venue.brings trader pair kind)).sum

variable {venue trader pair} {start market after : Market} {paid : Address → ℕ}

theorem bringsAll_append (kind : Address) (first second : List Action) :
    venue.bringsAll trader pair kind (first ++ second)
      = venue.bringsAll trader pair kind first + venue.bringsAll trader pair kind second := by
  simp only [Venue.bringsAll, List.map_append, List.sum_append]

theorem Synced.kept (synced : Synced venue pair start) : Kept venue trader pair start (fun _ => 0) start where
  backed := ⟨le_rfl, by rw [synced.reserves], by rw [synced.reserves]⟩
  held_le _ := le_rfl

/-- Actions in a row. -/
theorem Kept.performAll (apart : trader ≠ pair) {actions : List Action} : ∀ {paid : Address → ℕ}
    {market : Market} (_ : Kept venue trader pair start paid market)
    (_ : ∀ action ∈ actions, action.Proper pair) (_ : venue.performAll actions market = some after),
    Kept venue trader pair start (fun kind => paid kind + venue.bringsAll trader pair kind actions) after := by
  induction actions with
  | nil =>
    intro paid market kept _ performed
    cases Option.some.inj performed
    exact kept
  | cons action actions ih =>
    intro paid market kept proper performed
    obtain ⟨between, first, rest⟩ := Option.bind_eq_some_iff.mp performed
    obtain ⟨here, later⟩ := List.forall_mem_cons.mp proper
    have step : Kept venue trader pair start
        (fun kind => paid kind + venue.brings trader pair kind action) between :=
      ⟨perform_backed here kept.backed first, fun kind => by
        rw [← Nat.add_assoc]
        exact (perform_held apart first).trans (Nat.add_le_add_right (kept.held_le kind) _)⟩
    have all := ih step later rest
    simpa only [Venue.bringsAll, List.map_cons, List.sum_cons, Nat.add_assoc] using all

/-! ### The gain -/

variable {tokenIn tokenOut : Address}

/-- The tokens of a pair, in one order or the other. -/
def IsPair (venue : Venue) (pair tokenIn tokenOut : Address) : Prop :=
  (venue.token0 pair = tokenIn ∧ venue.token1 pair = tokenOut)
    ∨ (venue.token0 pair = tokenOut ∧ venue.token1 pair = tokenIn)

theorem Synced.positive (synced : Synced venue pair start) (tokens : IsPair venue pair tokenIn tokenOut) :
    0 < start.balanceOf tokenIn pair ∧ 0 < start.balanceOf tokenOut pair := by
  obtain ⟨rfl, rfl⟩ | ⟨rfl, rfl⟩ := tokens
  · exact ⟨synced.positive0, synced.positive1⟩
  · exact ⟨synced.positive1, synced.positive0⟩

/-- The product of the balances of the pair has not fallen. -/
theorem Kept.product_le (kept : Kept venue trader pair start paid market) (synced : Synced venue pair start)
    (tokens : IsPair venue pair tokenIn tokenOut) :
    start.balanceOf tokenIn pair * start.balanceOf tokenOut pair
      ≤ market.balanceOf tokenIn pair * market.balanceOf tokenOut pair := by
  have product : start.balanceOf (venue.token0 pair) pair * start.balanceOf (venue.token1 pair) pair
      ≤ market.balanceOf (venue.token0 pair) pair * market.balanceOf (venue.token1 pair) pair := by
    have floor := kept.backed.floor_le
    rw [synced.reserves] at floor
    exact floor.trans (Nat.mul_le_mul kept.backed.reserve0_le kept.backed.reserve1_le)
  obtain ⟨rfl, rfl⟩ | ⟨rfl, rfl⟩ := tokens
  · exact product
  · rwa [Nat.mul_comm, Nat.mul_comm (market.balanceOf _ _)]

/-- A trader who has no less of the one token has gained of the other one at most what was brought of it
and what the pair gives without a fee for what was brought of the first. -/
theorem Kept.gain_le (kept : Kept venue trader pair start paid market) (synced : Synced venue pair start)
    (tokens : IsPair venue pair tokenIn tokenOut)
    (enough : start.balanceOf tokenOut trader ≤ market.balanceOf tokenOut trader) :
    market.balanceOf tokenIn trader
      ≤ start.balanceOf tokenIn trader + paid tokenIn
        + quote 1 1 (start.balanceOf tokenOut pair) (start.balanceOf tokenIn pair) (paid tokenOut) := by
  obtain ⟨positiveIn, positiveOut⟩ := synced.positive tokens
  have product := kept.product_le synced tokens
  rw [Nat.mul_comm, Nat.mul_comm (market.balanceOf _ _)] at product
  have heldIn := kept.held_le tokenIn
  have heldOut := kept.held_le tokenOut
  unfold held at heldIn heldOut
  have payout := payout_le_quote positiveOut positiveIn product (show _ ≤ _ + paid tokenOut by omega)
  omega

end Runs

end Sando.Cfmm
