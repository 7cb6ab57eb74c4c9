/-
What the calls of the sandwich contract do on a market.

The callees are tokens and pairs. `actionOf` reads a call as they do, by its selector and its arguments, and
the calls of a V2 handler are a transfer of the contract and a swap of the pair. Behind a frontrun, anything
that others do and a backrun that sells no more than was bought, the contract has gained of WETH at most
what the others brought, and what the pair gives without a fee for what they brought of the other token
(`sandwich_gain_le`).
-/

import Sando.Cfmm.Pair
import Sando.Huff.Calls

namespace Sando.Cfmm

open Sando.Evm Sando.Curve Sando.Huff

/-! ### Callees -/

/-- What a token or a pair does when it is called, if it is one of the calls of the handlers. -/
def actionOf (sender : Address) : Event → Option Action
  | .call target value input =>
    if value ≠ 0 then none
    -- transfer(address,uint256)
    else if window (byteAt input) 0 4 = 0xa9059cbb ∧ 68 ≤ input.length ∧ argument input 0 < 2 ^ 160 then
      some (.transfer target sender (BitVec.ofNat 160 (argument input 0)) (argument input 1))
    -- transferFrom(address,address,uint256), of tokens of the sender, which needs no allowance
    else if window (byteAt input) 0 4 = 0x23b872dd ∧ 100 ≤ input.length
        ∧ argument input 0 = sender.toNat ∧ argument input 1 < 2 ^ 160 then
      some (.transfer target sender (BitVec.ofNat 160 (argument input 1)) (argument input 2))
    -- swap(uint256,uint256,address,bytes), without a callback
    else if window (byteAt input) 0 4 = 0x022c0d9f ∧ 164 ≤ input.length ∧ argument input 2 < 2 ^ 160
        ∧ dynamicArgument input 3 = [] then
      some (.swap target (BitVec.ofNat 160 (argument input 2)) (argument input 0) (argument input 1))
    else none
  | .selfdestruct _ => none

/-- Perform the calls of a frame one after the other. -/
def Venue.performCalls (venue : Venue) (sender : Address) (calls : List Event) (market : Market) :
    Option Market := do
  let actions ← calls.mapM (actionOf sender)
  venue.performAll actions market

section Calls

variable {sender token recipient pair : Address} {amount amount0Out amount1Out selector index : ℕ}
  {words : List ℕ}

theorem selector_encodeCall (small : selector < 256 ^ 4) :
    window (byteAt (encodeCall selector words)) 0 4 = selector := by
  rw [encodeCall, window_append_left (by simp), window_bigEndian, Nat.mod_eq_of_lt small]

theorem argument_of_encodeCall (inside : index < words.length) (small : words[index] < 2 ^ 256) :
    argument (encodeCall selector words) index = words[index] := by
  have read := @argument_encodeCall selector index words [] inside (by simpa using small)
  rwa [List.append_nil] at read

theorem address_lt (account : Address) : account.toNat < 2 ^ 256 :=
  account.isLt.trans (by norm_num)

theorem actionOf_erc20Transfer (small : amount < 2 ^ 256) :
    actionOf sender (erc20Transfer token recipient amount)
      = some (.transfer token sender recipient amount) := by
  have receiver : argument (encodeCall 0xa9059cbb [recipient.toNat, amount]) 0 = recipient.toNat :=
    argument_of_encodeCall (by simp) (address_lt recipient)
  have value : argument (encodeCall 0xa9059cbb [recipient.toNat, amount]) 1 = amount :=
    argument_of_encodeCall (by simp) small
  rw [erc20Transfer, actionOf, if_neg (by simp), receiver, value, selector_encodeCall (by norm_num),
    if_pos ⟨rfl, by simp, recipient.isLt⟩, BitVec.ofNat_toNat, BitVec.setWidth_eq]

theorem actionOf_erc20TransferFrom (small : amount < 2 ^ 256) :
    actionOf sender (erc20TransferFrom token sender recipient amount)
      = some (.transfer token sender recipient amount) := by
  have owner : argument (encodeCall 0x23b872dd [sender.toNat, recipient.toNat, amount]) 0
      = sender.toNat := argument_of_encodeCall (by simp) (address_lt sender)
  have receiver : argument (encodeCall 0x23b872dd [sender.toNat, recipient.toNat, amount]) 1
      = recipient.toNat := argument_of_encodeCall (by simp) (address_lt recipient)
  have value : argument (encodeCall 0x23b872dd [sender.toNat, recipient.toNat, amount]) 2 = amount :=
    argument_of_encodeCall (by simp) small
  rw [erc20TransferFrom, actionOf, if_neg (by simp), selector_encodeCall (by norm_num),
    if_neg (by simp), owner, receiver, value, if_pos ⟨rfl, by simp, rfl, recipient.isLt⟩, BitVec.ofNat_toNat,
    BitVec.setWidth_eq]

theorem actionOf_pairSwap (small0 : amount0Out < 2 ^ 256) (small1 : amount1Out < 2 ^ 256) :
    actionOf sender (pairSwap pair amount0Out amount1Out recipient)
      = some (.swap pair recipient amount0Out amount1Out) := by
  have first : argument (encodeCall 0x022c0d9f [amount0Out, amount1Out, recipient.toNat, 0x80, 0]) 0
      = amount0Out := argument_of_encodeCall (by simp) small0
  have second : argument (encodeCall 0x022c0d9f [amount0Out, amount1Out, recipient.toNat, 0x80, 0]) 1
      = amount1Out := argument_of_encodeCall (by simp) small1
  have receiver : argument (encodeCall 0x022c0d9f [amount0Out, amount1Out, recipient.toNat, 0x80, 0]) 2
      = recipient.toNat := argument_of_encodeCall (by simp) (address_lt recipient)
  have data : dynamicArgument
      (encodeCall 0x022c0d9f [amount0Out, amount1Out, recipient.toNat, 0x80, 0]) 3 = [] := by
    have read := dynamicArgument_encodeCall 0x022c0d9f [amount0Out, amount1Out, recipient.toNat, 0x80]
      [] [] 3 (by simp) (by simp) rfl (by norm_num)
    simpa using read
  rw [pairSwap, actionOf, if_neg (by simp), selector_encodeCall (by norm_num), if_neg (by simp),
    if_neg (by simp), first, second, receiver, data, if_pos ⟨rfl, by simp, recipient.isLt, rfl⟩,
    BitVec.ofNat_toNat, BitVec.setWidth_eq]

/-- What a frontrun does on the market. -/
def frontrunActions (self pair : Address) (isWethToken0 : Bool) (spent bought : ℕ) : List Action :=
  [.transfer wethAddress self pair spent,
    .swap pair self (if isWethToken0 then 0 else bought) (if isWethToken0 then bought else 0)]

/-- What a backrun does on the market. -/
def backrunActions (self pair token : Address) (isWethToken0 : Bool) (sold taken : ℕ) : List Action :=
  [.transfer token self pair sold,
    .swap pair self (if isWethToken0 then taken else 0) (if isWethToken0 then 0 else taken)]

section Handlers

variable {venue : Venue} {self pair token : Address} {isWethToken0 : Bool} {spent bought : ℕ}

/-- The calls of a frontrun, for amounts of 256 bits. -/
theorem performCalls_v2Frontrun (smallSpent : spent < 2 ^ 256) (smallBought : bought < 2 ^ 256)
    (market : Market) :
    venue.performCalls self (v2Frontrun self pair isWethToken0 spent bought) market
      = venue.performAll (frontrunActions self pair isWethToken0 spent bought) market := by
  have pays : actionOf self (erc20TransferFrom wethAddress self pair spent)
      = some (.transfer wethAddress self pair spent) := actionOf_erc20TransferFrom smallSpent
  have takes : actionOf self (buyOther pair isWethToken0 bought self) = some (.swap pair self
      (if isWethToken0 then 0 else bought) (if isWethToken0 then bought else 0)) := by
    cases isWethToken0 with
    | false => exact actionOf_pairSwap smallBought (by norm_num)
    | true => exact actionOf_pairSwap (by norm_num) smallBought
  simp [Venue.performCalls, v2Frontrun, frontrunActions, List.mapM_cons, pays, takes]

/-- The calls of a backrun. -/
theorem performCalls_v2Backrun (smallSpent : spent < 2 ^ 256) (smallBought : bought < 2 ^ 256)
    (market : Market) :
    venue.performCalls self (v2Backrun self pair token isWethToken0 spent bought) market
      = venue.performAll (backrunActions self pair token isWethToken0 spent bought) market := by
  have pays : actionOf self (erc20Transfer token pair spent) = some (.transfer token self pair spent) :=
    actionOf_erc20Transfer smallSpent
  have takes : actionOf self (buyWeth pair isWethToken0 bought self) = some (.swap pair self
      (if isWethToken0 then bought else 0) (if isWethToken0 then 0 else bought)) := by
    cases isWethToken0 with
    | false => exact actionOf_pairSwap (by norm_num) smallBought
    | true => exact actionOf_pairSwap smallBought (by norm_num)
  simp [Venue.performCalls, v2Backrun, backrunActions, List.mapM_cons, pays, takes]

end Handlers

end Calls

/-! ### What the contract has -/

/-- An action that takes nothing from an owner. -/
def Action.Spares (owner : Address) : Action → Prop
  | .transfer _ sender _ _ => sender ≠ owner
  | .burn _ holder _ => holder ≠ owner
  | .swap pair .. => pair ≠ owner
  | .mint .. => True

section Balances

variable {venue : Venue} {market after : Market} {token self pair other kind : Address}
  {amount amount0Out amount1Out : ℕ}

/-- A swap only adds to the balance of somebody else. -/
theorem swap_balanceOf_le {receiver : Address} (apart : pair ≠ other)
    (swapped : venue.swap pair receiver amount0Out amount1Out market = some after) :
    market.balanceOf kind other ≤ after.balanceOf kind other := by
  obtain ⟨first, second, once, twice, settled⟩ := swap_eq_some swapped
  rw [(update_eq_some (settle_eq_some settled).1).1]
  exact (pay_balanceOf_le once apart).trans (pay_balanceOf_le twice apart)

theorem perform_balanceOf_le {action : Action} (spares : action.Spares other)
    (performed : venue.perform action market = some after) :
    market.balanceOf kind other ≤ after.balanceOf kind other := by
  cases action with
  | transfer token sender receiver value => exact transfer_balanceOf_le performed spares
  | mint token owner value =>
    rw [Market.balanceOf_credit performed]
    exact Nat.le_add_right _ _
  | burn token owner value =>
    have debited := Market.balanceOf_debit performed kind other
    rw [if_neg fun both => spares both.2.symm] at debited
    exact debited.ge
  | swap pair receiver amount0Out amount1Out => exact swap_balanceOf_le spares performed

/-- Actions in a row. -/
theorem performAll_balanceOf_le {actions : List Action} (spare : ∀ action ∈ actions, action.Spares other)
    (performed : venue.performAll actions market = some after) :
    market.balanceOf kind other ≤ after.balanceOf kind other := by
  induction actions generalizing market with
  | nil =>
    cases Option.some.inj performed
    exact le_rfl
  | cons action actions ih =>
    obtain ⟨between, first, rest⟩ := Option.bind_eq_some_iff.mp performed
    obtain ⟨here, later⟩ := List.forall_mem_cons.mp spare
    exact (perform_balanceOf_le here first).trans (ih later rest)

/-- The receiver of a token without a tax gets all of it. -/
theorem pay_arrives (untaxed : ∀ value, venue.received token value = value) (apart : pair ≠ self)
    (paid : venue.pay token pair self amount market = some after) :
    market.balanceOf token self + amount ≤ after.balanceOf token self := by
  unfold Venue.pay at paid
  split_ifs at paid with positive
  · have moved := transfer_balanceOf paid token self
    rw [if_neg fun both => apart both.2.symm, if_pos ⟨rfl, rfl⟩, untaxed] at moved
    exact moved.ge
  · obtain rfl := Option.some.inj paid
    omega

end Balances

/-! ### A sandwich -/

section Sandwich

variable {venue : Venue} {market after : Market} {self pair token : Address} {isWethToken0 : Bool}
  {spent bought sold taken : ℕ}

/-- WETH is on its side of a pair, the other token on the other one. -/
structure Sides (venue : Venue) (pair token : Address) (isWethToken0 : Bool) : Prop where
  weth : (if isWethToken0 then venue.token0 pair else venue.token1 pair) = wethAddress
  other : (if isWethToken0 then venue.token1 pair else venue.token0 pair) = token
  different : wethAddress ≠ token

theorem Sides.isPair (sides : Sides venue pair token isWethToken0) :
    IsPair venue pair wethAddress token := by
  cases isWethToken0 with
  | false => exact .inr ⟨sides.other, sides.weth⟩
  | true => exact .inl ⟨sides.weth, sides.other⟩

/-- What is bought arrives. -/
theorem frontrun_arrives (sides : Sides venue pair token isWethToken0) (apart : self ≠ pair)
    (untaxed : ∀ value, venue.received token value = value)
    (performed : venue.performAll (frontrunActions self pair isWethToken0 spent bought) market
      = some after) :
    market.balanceOf token self + bought ≤ after.balanceOf token self := by
  obtain ⟨paid, pays, performed⟩ := Option.bind_eq_some_iff.mp performed
  obtain ⟨swapped, swaps, performed⟩ := Option.bind_eq_some_iff.mp performed
  obtain rfl := Option.some.inj performed
  have before : market.balanceOf token self ≤ paid.balanceOf token self := by
    have moved := transfer_balanceOf pays token self
    rw [if_neg fun both => sides.different both.1.symm, Nat.add_zero] at moved
    exact moved ▸ Nat.le_add_right _ _
  obtain ⟨first, second, once, twice, settled⟩ := swap_eq_some swaps
  rw [(update_eq_some (settle_eq_some settled).1).1]
  have arrives : paid.balanceOf token self + bought ≤ second.balanceOf token self := by
    cases isWethToken0 with
    | false =>
      have other : venue.token0 pair = token := sides.other
      rw [other] at once
      exact (pay_arrives untaxed (Ne.symm apart) once).trans (pay_balanceOf_le twice (Ne.symm apart))
    | true =>
      have other : venue.token1 pair = token := sides.other
      rw [other] at twice
      exact (Nat.add_le_add_right (pay_balanceOf_le once (Ne.symm apart)) _).trans
        (pay_arrives untaxed (Ne.symm apart) twice)
  omega

/-- Nothing but what is sold leaves. -/
theorem backrun_leaves (apart : self ≠ pair)
    (performed : venue.performAll (backrunActions self pair token isWethToken0 sold taken) market
      = some after) :
    market.balanceOf token self ≤ after.balanceOf token self + sold := by
  obtain ⟨paid, pays, performed⟩ := Option.bind_eq_some_iff.mp performed
  obtain ⟨swapped, swaps, performed⟩ := Option.bind_eq_some_iff.mp performed
  obtain rfl := Option.some.inj performed
  have moved := transfer_balanceOf pays token self
  rw [if_pos ⟨rfl, rfl⟩, if_neg fun both => apart both.2, Nat.add_zero] at moved
  have later : paid.balanceOf token self ≤ swapped.balanceOf token self :=
    swap_balanceOf_le (Ne.symm apart) swaps
  omega

/-- The two transactions themselves bring nothing. -/
@[simp] theorem bringsAll_frontrunActions (kind : Address) :
    venue.bringsAll self pair kind (frontrunActions self pair isWethToken0 spent bought) = 0 := by
  simp [Venue.bringsAll, Venue.brings, inflow, frontrunActions]

@[simp] theorem bringsAll_backrunActions (kind : Address) :
    venue.bringsAll self pair kind (backrunActions self pair token isWethToken0 sold taken) = 0 := by
  simp [Venue.bringsAll, Venue.brings, inflow, backrunActions]

/-- What the contract gains by a sandwich comes from the others. -/
theorem sandwich_gain_le {start opened moved : Market} {others : List Action}
    (sides : Sides venue pair token isWethToken0) (apart : self ≠ pair)
    (untaxed : ∀ value, venue.received token value = value) (synced : Synced venue pair start)
    (proper : ∀ action ∈ others, action.Proper pair) (spare : ∀ action ∈ others, action.Spares self)
    (less : sold ≤ bought)
    (opens : venue.performAll (frontrunActions self pair isWethToken0 spent bought) start = some opened)
    (moves : venue.performAll others opened = some moved)
    (closes : venue.performAll (backrunActions self pair token isWethToken0 sold taken) moved
      = some after) :
    after.balanceOf wethAddress self ≤ start.balanceOf wethAddress self
      + venue.bringsAll self pair wethAddress others
      + quote 1 1 (start.balanceOf token pair) (start.balanceOf wethAddress pair)
        (venue.bringsAll self pair token others) := by
  have ours : ∀ action ∈ frontrunActions self pair isWethToken0 spent bought, action.Proper pair := by
    simpa [frontrunActions, Action.Proper] using apart
  have again : ∀ action ∈ backrunActions self pair token isWethToken0 sold taken,
      action.Proper pair := by
    simpa [backrunActions, Action.Proper] using apart
  have kept := ((synced.kept.performAll apart ours opens).performAll apart proper moves).performAll apart
    again closes
  have arrives := frontrun_arrives sides apart untaxed opens
  have keeps : opened.balanceOf token self ≤ moved.balanceOf token self :=
    performAll_balanceOf_le spare moves
  have leaves := backrun_leaves apart closes
  have gain := kept.gain_le synced sides.isPair (by omega)
  simpa only [bringsAll_frontrunActions, bringsAll_backrunActions, Nat.zero_add, Nat.add_zero] using gain

end Sandwich

end Sando.Cfmm
