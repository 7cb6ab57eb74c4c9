/-
From the payload builders for several swaps through the contract.

The payloads of the opportunities are appended to one another and a label behind the last one ends
them. `frontrunCalls` and `backrunCalls` say what the contract should do with the result. It never does:
every payload starts with the block number, and the contract takes that byte for a label, of a later
payload as of the first. The label with which a chain starts in front of a V3 pool is none either.

The block number is the same in the frontrun and in the backrun. Behind one label the contract does
one kind of thing (`CallsNext.clash`), and the two should do different ones: pay with `transferFrom` and
with `transfer` on a V2 pair, and swap in different directions on a V3 pool. So no block number, no list
of opportunities and no behaviour of the pools makes both of them work (`multi_never_round_trips`).
-/

import Sando.Huff.Openings
import Sando.RoundTrip.V3
import Sando.Simulate.Evm

namespace Sando.RoundTrip

open Sando.Evm Sando.Evm.Context Sando.Huff Sando.TxBuilder
open Sando.Simulate (PoolVariant)

/-! ### Payloads of several swaps -/

/-- One of several swaps: the pool and the amounts the two builders are given. -/
structure Opportunity where
  pool : WethPool
  poolVariant : PoolVariant
  frontrunIn : Word
  frontrunOut : Word
  backrunIn : Word
  backrunOut : Word

/-- What a builder returns for one opportunity. -/
abbrev Builder := Bool → Opportunity → Option (List Byte × Word)

/-- The payload of a frontrun. -/
def frontrunPayload (keccak : List Byte → Word) (number : Word) : Builder := fun isFirst opportunity =>
  match opportunity.poolVariant with
  | .uniswapV2 => V2.createMultiPayloadWethIsInput number opportunity.frontrunIn opportunity.frontrunOut
      opportunity.pool.other opportunity.pool.toPool isFirst
  | .uniswapV3 => V3.createMultiPayloadWethIsInput keccak number opportunity.frontrunIn opportunity.frontrunOut
      getWethAddress opportunity.pool.other opportunity.pool.toPool isFirst

/-- The payload of a backrun. -/
def backrunPayload (keccak : List Byte → Word) (number : Word) : Builder := fun isFirst opportunity =>
  match opportunity.poolVariant with
  | .uniswapV2 => V2.createMultiPayloadWethIsOutput number opportunity.backrunIn opportunity.backrunOut
      opportunity.pool.other opportunity.pool.toPool isFirst
  | .uniswapV3 => V3.createMultiPayloadWethIsOutput keccak number opportunity.backrunIn opportunity.backrunOut
      opportunity.pool.other getWethAddress opportunity.pool.toPool isFirst

/-- The payloads one behind the other, with the label that ends them, and the sum of the call
values. -/
def multiPayload (builder : Builder) : Bool → List Opportunity → Option (List Byte × Word)
  | _, [] => some ([getEndOfMultiPayload], 0)
  | isFirst, opportunity :: rest => do
    let (payload, value) ← builder isFirst opportunity
    let (behind, further) ← multiPayload builder false rest
    some (payload ++ behind, value + further)

/-! ### What they should do -/

/-- The calls of one frontrun, for the amounts its payload can hold. -/
def frontrunCalls (keccak : List Byte → Word) (self : Address) (opportunity : Opportunity) :
    Option (List Event) :=
  match opportunity.poolVariant with
  | .uniswapV2 => do
    let amountOut ← V2.encodeFourBytes opportunity.frontrunOut.toNat true (getWethAddress < opportunity.pool.other)
    some (v2Frontrun self opportunity.pool.address (getWethAddress < opportunity.pool.other)
      (encodeWeth opportunity.frontrunIn.toNat) amountOut.decode)
  | .uniswapV3 => do
    let amountIn ← V3.encodeNumBytes opportunity.frontrunIn.toNat 4
    let amountOut ← V3.encodeNumBytes opportunity.frontrunOut.toNat 5
    let swap : V3Swap := {
      pool := opportunity.pool.address
      zeroForOne := opportunity.pool.isWethToken0
      amountSpecified :=
        if opportunity.pool.isWethToken0 then 0 - BitVec.ofNat 256 amountOut.decode
        else BitVec.ofNat 256 amountIn.decode
      token := getWethAddress
      poolKeyHash := V3.poolKeyHash keccak opportunity.pool.toPool }
    some [swap.call self]

/-- The calls of one backrun. -/
def backrunCalls (keccak : List Byte → Word) (self : Address) (opportunity : Opportunity) :
    Option (List Event) :=
  match opportunity.poolVariant with
  | .uniswapV2 => do
    let amountIn ← V2.encodeFourBytes opportunity.backrunIn.toNat false (getWethAddress < opportunity.pool.other)
    let amountOut ← V2.encodeFiveBytes opportunity.backrunOut.toNat (getWethAddress < opportunity.pool.other)
    some (v2Backrun self opportunity.pool.address opportunity.pool.other (getWethAddress < opportunity.pool.other)
      amountIn.decode amountOut.decode)
  | .uniswapV3 => do
    let amountIn ← V3.encodeNumBytes opportunity.backrunIn.toNat 5
    let amountOut ← V3.encodeNumBytes opportunity.backrunOut.toNat 4
    let swap : V3Swap := {
      pool := opportunity.pool.address
      zeroForOne := !opportunity.pool.isWethToken0
      amountSpecified :=
        if opportunity.pool.isWethToken0 then BitVec.ofNat 256 amountIn.decode
        else 0 - BitVec.ofNat 256 amountOut.decode
      token := opportunity.pool.other
      poolKeyHash := V3.poolKeyHash keccak opportunity.pool.toPool }
    some [swap.call self]

/-- Sent by the searcher, the payload of the list makes the contract perform every swap of it, one
after the other, and then reach the exit: in some block of some world. -/
def Performs (number : Word) (builder : Builder)
    (calls : Address → Opportunity → Option (List Event)) (opportunities : List Opportunity) : Prop :=
  ∃ payload value world message events,
    multiPayload builder true opportunities = some (payload, value)
      ∧ Sends message number payload value
      ∧ opportunities.mapM (calls message.address) = some events
      ∧ (sandwich world message).Executes ⟨.stop, events.flatten⟩

/-- The payloads of the frontrun and of the backrun both perform the list. -/
def MultiRoundTrips (keccak : List Byte → Word) (number : Word) (opportunities : List Opportunity) : Prop :=
  Performs number (frontrunPayload keccak number) (frontrunCalls keccak) opportunities
    ∧ Performs number (backrunPayload keccak number) (backrunCalls keccak) opportunities

/-! ### The first two payloads -/

section Split

variable {keccak : List Byte → Word} {number value : Word} {builder : Builder}
  {calls : Address → Opportunity → Option (List Event)} {head next : Opportunity}
  {rest : List Opportunity} {payload : List Byte} {isFirst : Bool}

/-- What the first two payloads of a list that is performed do. -/
theorem Performs.split (performs : Performs number builder calls (head :: next :: rest)) :
    ∃ first second behind callvalue world message done after events,
      (∃ value, builder true head = some (first, value))
        ∧ (∃ value, builder false next = some (second, value))
        ∧ Sends message number (first ++ (second ++ behind)) callvalue
        ∧ calls message.address head = some done ∧ calls message.address next = some after
        ∧ (sandwich world message).Executes ⟨.stop, done ++ (after ++ events)⟩ := by
  obtain ⟨payload, callvalue, world, message, events, built, sends, listed, stops⟩ := performs
  simp only [multiPayload, Option.bind_eq_bind, Option.bind_eq_some_iff, Option.some.injEq] at built
  obtain ⟨⟨first, value⟩, headBuilt, ⟨onward, sum⟩, ⟨⟨second, value'⟩, nextBuilt, ⟨behind, _⟩, -, same⟩,
    joined⟩ := built
  obtain ⟨rfl, -⟩ := Prod.mk.inj same
  obtain ⟨rfl, -⟩ := Prod.mk.inj joined
  simp only [List.mapM_cons, Option.bind_eq_bind, Option.bind_eq_some_iff, Option.pure_def,
    Option.some.injEq] at listed
  obtain ⟨done, headCalls, _, ⟨after, nextCalls, later, -, rfl⟩, rfl⟩ := listed
  exact ⟨first, second, behind, callvalue, world, message, done, after, later.flatten,
    ⟨value, headBuilt⟩, ⟨value', nextBuilt⟩, sends, headCalls, nextCalls, stops⟩

/-- Every payload starts with the block number. -/
theorem frontrunPayload_starts
    (built : frontrunPayload keccak number isFirst head = some (payload, value)) :
    ∃ rest, payload = bigEndian 1 number.toNat ++ rest := by
  unfold frontrunPayload at built
  split at built
  · exact V2.createMultiPayloadWethIsInput_starts built
  · obtain ⟨payloadData, rfl⟩ := V3.createMultiPayloadWethIsInput_withBlock built
    exact ⟨_, V3.withBlock_eq⟩

theorem backrunPayload_starts
    (built : backrunPayload keccak number isFirst head = some (payload, value)) :
    ∃ rest, payload = bigEndian 1 number.toNat ++ rest := by
  unfold backrunPayload at built
  split at built
  · exact V2.createMultiPayloadWethIsOutput_starts built
  · obtain ⟨payloadData, rfl⟩ := V3.createMultiPayloadWethIsOutput_withBlock built
    exact ⟨_, V3.withBlock_eq⟩

end Split

/-! ### What the calls look like -/

section Kinds

variable {keccak : List Byte → Word} {self token first second : Address} {amount : ℕ}
  {opening : Opening} {swap : V3Swap}

theorem size_of_transferFrom
    (describes : opening.Describes limitOffset (erc20TransferFrom token first second amount)) :
    opening.size = 0x64 := by
  obtain ⟨target, value, input, same, size, -⟩ := describes
  obtain ⟨-, -, rfl⟩ := Event.call.inj same
  rw [length_encodeCall] at size
  exact BitVec.eq_of_toNat_eq size.symm

theorem size_of_transfer
    (describes : opening.Describes limitOffset (erc20Transfer token first amount)) :
    opening.size = 0x44 := by
  obtain ⟨target, value, input, same, size, -⟩ := describes
  obtain ⟨-, -, rfl⟩ := Event.call.inj same
  rw [length_encodeCall] at size
  exact BitVec.eq_of_toNat_eq size.symm

/-- A call to a V3 pool has the price bound of its direction. -/
theorem limit_of_swap (describes : opening.Describes limitOffset (swap.call self)) :
    opening.size = 0xf9 ∧ ∀ limit, opening.word = some limit → limit = V3Swap.limit swap.zeroForOne := by
  obtain ⟨target, value, input, same, size, word⟩ := describes
  obtain ⟨-, -, rfl⟩ := Event.call.inj same
  have long : opening.size = 0xf9 := by
    refine BitVec.eq_of_toNat_eq (size.symm.trans ?_)
    simp [V3Swap.input, poolSwapInput, poolData]
  refine ⟨long, fun limit known => ?_⟩
  have there := word (by rw [long]; decide)
  rw [known, fits_some] at there
  rw [← there]
  apply BitVec.eq_of_toNat_eq
  rw [toNat_wordAt]
  exact argument_poolSwapInput

end Kinds

/-- How a frontrun begins. -/
def FrontrunOpening (opportunity : Opportunity) (opening : Opening) : Prop :=
  match opportunity.poolVariant with
  | .uniswapV2 => opening.size = 0x64
  | .uniswapV3 => opening.size = 0xf9
      ∧ ∀ limit, opening.word = some limit → limit = V3Swap.limit opportunity.pool.isWethToken0

/-- How a backrun begins. -/
def BackrunOpening (opportunity : Opportunity) (opening : Opening) : Prop :=
  match opportunity.poolVariant with
  | .uniswapV2 => opening.size = 0x44
  | .uniswapV3 => opening.size = 0xf9
      ∧ ∀ limit, opening.word = some limit → limit = V3Swap.limit (!opportunity.pool.isWethToken0)

section Behind

variable {keccak : List Byte → Word} {number value : Word} {self : Address}
  {opportunity head next : Opportunity} {rest : List Opportunity} {calls events : List Event}
  {world : World} {message : Message} {payload : List Byte}

theorem frontrunCalls_opening (listed : frontrunCalls keccak self opportunity = some calls) :
    ∃ event rest, calls = event :: rest
      ∧ ∀ opening : Opening, opening.Describes limitOffset event → FrontrunOpening opportunity opening := by
  unfold frontrunCalls at listed
  unfold FrontrunOpening
  split at listed <;>
    simp only [Option.bind_eq_bind, Option.bind_eq_some_iff, Option.some.injEq] at listed
  case h_1 v2 =>
    obtain ⟨amountOut, -, rfl⟩ := listed
    refine ⟨_, _, rfl, fun opening describes => ?_⟩
    exact size_of_transferFrom describes
  case h_2 v3 =>
    obtain ⟨amountIn, -, amountOut, -, rfl⟩ := listed
    refine ⟨_, _, rfl, fun opening describes => ?_⟩
    exact limit_of_swap describes

theorem backrunCalls_opening (listed : backrunCalls keccak self opportunity = some calls) :
    ∃ event rest, calls = event :: rest
      ∧ ∀ opening : Opening, opening.Describes limitOffset event → BackrunOpening opportunity opening := by
  unfold backrunCalls at listed
  unfold BackrunOpening
  split at listed <;>
    simp only [Option.bind_eq_bind, Option.bind_eq_some_iff, Option.some.injEq] at listed
  case h_1 v2 =>
    obtain ⟨amountIn, -, amountOut, -, rfl⟩ := listed
    refine ⟨_, _, rfl, fun opening describes => ?_⟩
    exact size_of_transfer describes
  case h_2 v3 =>
    obtain ⟨amountIn, -, amountOut, -, rfl⟩ := listed
    refine ⟨_, _, rfl, fun opening describes => ?_⟩
    exact limit_of_swap describes

/-- The label with which a chain starts in front of a V3 pool is none. -/
theorem prepared_never_stops
    (sends : Sends message number (V3.withBlock number true payload ++ calldata) value) :
    ¬ (sandwich world message).Executes ⟨.stop, events⟩ := by
  intro stops
  rw [V3.withBlock_eq, if_pos rfl, List.append_assoc, List.append_assoc] at sends
  obtain ⟨behind, entered⟩ := authorised_leads world sends.authorised
  obtain ⟨target, jumps, label⟩ := entryPoint_block world message behind
  have misses : codeAt main target.toNat = none := by
    rw [label, sends.label (by decide)]
    rfl
  exact (Ends.invalid jumps misses).not_stop (by decide) (stops.of_leads entered)

theorem isOffset_of_found {amount : ℕ} {isWethInput isWethToken0 : Bool} {encoded : EncodedSwapValue}
    (found : V2.encodeFourBytes amount isWethInput isWethToken0 = some encoded) :
    IsOffset encoded.memOffset := by
  obtain ⟨short, -, -, place, -⟩ := V2.encodeFourBytes_spec found
  rw [IsOffset]
  split at place <;> omega

/-- A frontrun that is performed makes the second swap behind the label that is the block number. -/
theorem frontrun_behind (performs : Performs number (frontrunPayload keccak number)
    (frontrunCalls keccak) (head :: next :: rest)) :
    ∃ offset opening, CallsNext offset (number.toNat % 256) opening ∧ FrontrunOpening next opening := by
  obtain ⟨first, second, behind, callvalue, world, message, done, after, events, ⟨_, headBuilt⟩,
    ⟨_, nextBuilt⟩, sends, headCalls, nextCalls, stops⟩ := performs.split
  obtain ⟨second, rfl⟩ := frontrunPayload_starts nextBuilt
  obtain ⟨event, further, rfl, opens⟩ := frontrunCalls_opening nextCalls
  unfold frontrunPayload at headBuilt
  unfold frontrunCalls at headCalls
  split at headBuilt
  case h_2 =>
    obtain ⟨payloadData, same⟩ := V3.createMultiPayloadWethIsInput_withBlock headBuilt
    rw [same] at sends
    exact absurd stops (prepared_never_stops sends)
  case h_1 v2 =>
    obtain ⟨encoded, found, rfl⟩ := V2.createMultiPayloadWethIsInput_first headBuilt
    simp only [v2, found, Option.bind_eq_bind, Option.bind_some, Option.some.injEq] at headCalls
    subst headCalls
    simp only [List.append_assoc] at sends
    have offset : (message.data 2).toNat = encoded.memOffset := by
      rw [sends.data_eq, ← window_one]
      simp (disch := simp) only [window_append_right, length_bigEndian, Nat.reduceSub]
      exact window_field (by have := isOffset_of_found found; rw [IsOffset] at this; omega)
    have label : (message.data 0x1b).toNat = number.toNat % 256 := by
      rw [sends.data_eq, ← window_one]
      simp (disch := simp) only [window_append_right, length_bigEndian, Nat.reduceSub]
      rw [window_append_left (by simp), window_bigEndian, Nat.pow_one]
    obtain ⟨made, width, attempts⟩ := v2InputMultiFirst_jumps world message
    obtain ⟨opening, calls, describes⟩ := callsNext_of_executes .v2InputMultiFirst stops
      sends.authorised (sends.label (gate_lt _)) (message.data 0x1b).isLt (by norm_num)
      (offset ▸ isOffset_of_found found) width attempts
    exact ⟨_, opening, label ▸ calls, opens opening describes⟩

/-- So does a backrun. -/
theorem backrun_behind (performs : Performs number (backrunPayload keccak number)
    (backrunCalls keccak) (head :: next :: rest)) :
    ∃ offset opening, CallsNext offset (number.toNat % 256) opening ∧ BackrunOpening next opening := by
  obtain ⟨first, second, behind, callvalue, world, message, done, after, events, ⟨_, headBuilt⟩,
    ⟨_, nextBuilt⟩, sends, headCalls, nextCalls, stops⟩ := performs.split
  obtain ⟨second, rfl⟩ := backrunPayload_starts nextBuilt
  obtain ⟨event, further, rfl, opens⟩ := backrunCalls_opening nextCalls
  unfold backrunPayload at headBuilt
  unfold backrunCalls at headCalls
  split at headBuilt
  case h_2 =>
    obtain ⟨payloadData, same⟩ := V3.createMultiPayloadWethIsOutput_withBlock headBuilt
    rw [same] at sends
    exact absurd stops (prepared_never_stops sends)
  case h_1 v2 =>
    obtain ⟨encoded, taken, found, rfl⟩ := V2.createMultiPayloadWethIsOutput_first headBuilt
    simp only [v2, found, Option.bind_eq_bind, Option.bind_some, Option.bind_eq_some_iff,
      Option.some.injEq] at headCalls
    obtain ⟨amountOut, -, rfl⟩ := headCalls
    simp only [List.append_assoc] at sends
    have offset : (message.data 2).toNat = encoded.memOffset := by
      rw [sends.data_eq, ← window_one]
      simp (disch := simp) only [window_append_right, length_bigEndian, Nat.reduceSub]
      exact window_field (by have := isOffset_of_found found; rw [IsOffset] at this; omega)
    have label : (message.data 0x30).toNat = number.toNat % 256 := by
      rw [sends.data_eq, ← window_one]
      simp (disch := simp) only [window_append_right, length_bigEndian, Nat.reduceSub]
      rw [window_append_left (by simp), window_bigEndian, Nat.pow_one]
    obtain ⟨made, width, attempts⟩ := v2OutputMultiFirst_jumps world message
    obtain ⟨opening, calls, describes⟩ := callsNext_of_executes .v2OutputMultiFirst stops
      sends.authorised (sends.label (gate_lt _)) (message.data 0x30).isLt (by norm_num)
      (offset ▸ isOffset_of_found found) width attempts
    exact ⟨_, opening, label ▸ calls, opens opening describes⟩

end Behind

/-- No list of several opportunities makes both the payload of its frontrun and the payload of its
backrun work, in whatever block. -/
theorem multi_never_round_trips (keccak : List Byte → Word) (number : Word)
    (opportunities : List Opportunity) (several : 1 < opportunities.length) :
    ¬ MultiRoundTrips keccak number opportunities := by
  rintro ⟨frontrun, backrun⟩
  match opportunities, several with
  | head :: next :: rest, _ =>
    obtain ⟨offset, first, firstCalls, firstOpens⟩ := frontrun_behind frontrun
    obtain ⟨other, second, secondCalls, secondOpens⟩ := backrun_behind backrun
    obtain ⟨apart, shown⟩ := firstCalls.clash secondCalls
    rw [FrontrunOpening] at firstOpens
    rw [BackrunOpening] at secondOpens
    cases variant : next.poolVariant with
    | uniswapV2 =>
      rw [variant] at firstOpens secondOpens
      exact apart firstOpens secondOpens
    | uniswapV3 =>
      rw [variant] at firstOpens secondOpens
      obtain ⟨limit, known, known'⟩ := shown firstOpens.1 secondOpens.1
      have same := (firstOpens.2 limit known).symm.trans (secondOpens.2 limit known')
      cases side : next.pool.isWethToken0 <;> rw [side] at same <;> exact absurd same (by decide)

/-- The V2 pair of WETH and USDT. -/
def usdtPair : WethPool where
  address := 0x0d4a11d5EEaaC28EC3F61d100daF4d40471f1852
  token0 := getWethAddress
  token1 := 0xdAC17F958D2ee523a2206206994597C13D831ec7
  swapFee := 3000
  sorted := by decide
  hasWeth := Or.inl rfl

/-- Buy USDT for two WETH and sell it again. -/
def usdtOpportunity : Opportunity :=
  ⟨usdtPair, .uniswapV2, 2000000000000000000, 3700000000, 3690000000, 2010000000000000000⟩

/-- Buy USDC for one WETH on the V3 pool and sell it again. -/
def usdcOpportunity : Opportunity :=
  ⟨usdcPool, .uniswapV3, 1000000000000000000, 1850000000, 1840000000, 1005000000000000000⟩

theorem multi_never_round_trips_hybrid :
    ¬ MultiRoundTrips usdcKeccak 17000000 [usdtOpportunity, usdcOpportunity] :=
  multi_never_round_trips _ _ _ (by decide)

/-- The last byte of this block number is no label, so that neither payload gets past its first swap,
although the builders return both. -/
theorem multi_usdt_never_performed :
    (multiPayload (frontrunPayload usdcKeccak 17000000) true
        [usdtOpportunity, usdtOpportunity]).isSome
      ∧ (multiPayload (backrunPayload usdcKeccak 17000000) true
        [usdtOpportunity, usdtOpportunity]).isSome
      ∧ ¬ Performs 17000000 (frontrunPayload usdcKeccak 17000000) (frontrunCalls usdcKeccak)
        [usdtOpportunity, usdtOpportunity]
      ∧ ¬ Performs 17000000 (backrunPayload usdcKeccak 17000000) (backrunCalls usdcKeccak)
        [usdtOpportunity, usdtOpportunity] := by
  have noLabel {offset : ℕ} {opening : Opening} :
      ¬ CallsNext offset ((17000000 : Word).toNat % 256) opening := by
    rw [show (17000000 : Word).toNat % 256 = 64 from rfl]
    intro calls
    cases calls with
    | closed closed => exact absurd closed (by decide)
  refine ⟨rfl, rfl, fun performs => ?_, fun performs => ?_⟩
  · obtain ⟨offset, opening, calls, -⟩ := frontrun_behind performs
    exact noLabel calls
  · obtain ⟨offset, opening, calls, -⟩ := backrun_behind performs
    exact noLabel calls

end Sando.RoundTrip
