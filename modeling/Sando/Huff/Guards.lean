/-
What the V3 handlers accept.

A V3 handler looks at one word of what its pool returned. `v3_guard_exact_iff` compares its decision
with the one it should make: to go on when the pool took at most the encoded maximum and gave at least
the encoded minimum. The handlers that fix the input of a segment decide like that. The others compare
strictly, the ones that fix their output never look at what they received, and `v3_input1` reads only
four bytes of its minimum.
-/

import Sando.Huff.V3

namespace Sando.Huff

open Sando.Evm Sando.Evm.Context Memory

/-! ### What a pool does -/

namespace V3Swap

variable {swap : V3Swap} {amount0 amount1 : Word}

/-- What the pool took, of the two amounts it returned. -/
def paid (swap : V3Swap) (amount0 amount1 : Word) : Int :=
  if swap.zeroForOne then amount0.toInt else amount1.toInt

/-- What the pool gave. -/
def received (swap : V3Swap) (amount0 amount1 : Word) : Int :=
  -(if swap.zeroForOne then amount1.toInt else amount0.toInt)

/-- The amounts that a successful swap can return. A swap of nothing does not succeed. -/
structure Returns (swap : V3Swap) (amount0 amount1 : Word) : Prop where
  specified : swap.amountSpecified ≠ 0
  takes : 0 ≤ swap.paid amount0 amount1
  gives : 0 ≤ swap.received amount0 amount1
  exactInput : 0 < swap.amountSpecified.toInt →
    swap.paid amount0 amount1 ≤ swap.amountSpecified.toInt
  exactOutput : swap.amountSpecified.toInt < 0 →
    swap.received amount0 amount1 ≤ -swap.amountSpecified.toInt

/-- A pool that sells token 1 returns what it took in front. -/
theorem paid_eq (side : swap.zeroForOne = true) (takes : 0 ≤ swap.paid amount0 amount1) :
    swap.paid amount0 amount1 = amount0.toNat := by
  rw [paid, if_pos side] at takes ⊢
  have positive : amount0.toInt = if 2 * amount0.toNat < 2 ^ 256 then (amount0.toNat : Int)
      else (amount0.toNat : Int) - (2 ^ 256 : ℕ) := BitVec.toInt_eq_toNat_cond amount0
  have bound := amount0.isLt
  split at positive <;> omega

/-- A pool that sells token 0 returns what it gave in front, negated. -/
theorem received_eq (side : swap.zeroForOne = false) (gives : 0 ≤ swap.received amount0 amount1) :
    swap.received amount0 amount1 = (0 - amount0).toNat
      ∧ swap.received amount0 amount1 + 1 = (1 - amount0).toNat := by
  have other : ¬ swap.zeroForOne = true := by
    rw [side]
    decide
  rw [received, if_neg other] at gives ⊢
  have negative : amount0.toInt = if 2 * amount0.toNat < 2 ^ 256 then (amount0.toNat : Int)
      else (amount0.toNat : Int) - (2 ^ 256 : ℕ) := BitVec.toInt_eq_toNat_cond amount0
  have bound := amount0.isLt
  have zero : (0 : Word).toNat = 0 := rfl
  have one : (1 : Word).toNat = 1 := rfl
  rw [BitVec.toNat_sub, BitVec.toNat_sub, zero, one]
  split at negative <;> omega

end V3Swap

/-! ### What a payload encodes -/

/-- An amount packed into `count` bytes, with the byte in front that shifts them down. -/
def PackedAt (bytes : ℕ → Byte) (shiftOffset fieldOffset count amount : ℕ) : Prop :=
  ∃ shift, count + shift ≤ 32 ∧ (bytes shiftOffset).toNat = (32 - count - shift) * 8
    ∧ amount = window bytes fieldOffset count * 256 ^ shift

section Packed

variable {bytes : ℕ → Byte} {shiftOffset fieldOffset count amount : ℕ}

theorem PackedAt.toNat_eq (packed : PackedAt bytes shiftOffset fieldOffset count amount) :
    (packedWord bytes shiftOffset fieldOffset count).toNat = amount := by
  obtain ⟨shift, small, place, value⟩ := packed
  rw [value]
  exact toNat_packedWord small place

/-- Fewer bytes never make a larger amount. -/
theorem packedWord_le_succ (bytes : ℕ → Byte) (shiftOffset fieldOffset count : ℕ)
    (narrow : count < 32) :
    (packedWord bytes shiftOffset fieldOffset count).toNat
      ≤ (packedWord bytes shiftOffset fieldOffset (count + 1)).toNat := by
  have full (width : ℕ) (narrow : width ≤ 32) :
      (BitVec.ofNat 256 (window bytes fieldOffset width * 256 ^ (32 - width))).toNat
        = window bytes fieldOffset width * 256 ^ (32 - width) := by
    refine toNat_ofNat_of_lt ?_
    calc window bytes fieldOffset width * 256 ^ (32 - width)
        < 256 ^ width * 256 ^ (32 - width) :=
          Nat.mul_lt_mul_of_pos_right (window_lt bytes fieldOffset width) (by positivity)
      _ = 2 ^ 256 := by rw [← pow_add, Nat.add_sub_cancel' narrow]; norm_num
  have longer := window_add bytes fieldOffset count 1
  have power : (256 : ℕ) ^ (32 - count) = 256 ^ 1 * 256 ^ (32 - (count + 1)) := by
    rw [← pow_add]
    congr 1
    omega
  rw [packedWord, packedWord, BitVec.toNat_ushiftRight, BitVec.toNat_ushiftRight,
    Nat.shiftRight_eq_div_pow, Nat.shiftRight_eq_div_pow, full count (by omega),
    full (count + 1) (by omega), longer, power, ← Nat.mul_assoc]
  exact Nat.div_le_div_right (Nat.mul_le_mul_right _ (Nat.le_add_right _ _))

end Packed

/-! ### The handlers -/

namespace V3Handler

/-- The swap it asks for. -/
def swap (message : Message) (cursor : ℕ) : V3Handler → V3Swap
  | v3Input0 => v3Input0Swap message
  | v3Input1 => v3Input1Swap message
  | v3Output0 => v3Output0Swap message
  | v3Output1 => v3Output1Swap message
  | v3Input0Multi => v3Input0MultiSwap message cursor
  | v3Input1Multi => v3Input1MultiSwap message cursor
  | v3Output0Multi => v3Output0MultiSwap message cursor
  | v3Output1Multi => v3Output1MultiSwap message cursor

/-- Its condition on the first word the pool returns. -/
def guard (message : Message) (cursor : ℕ) (word : Word) : V3Handler → Bool
  | v3Input0 => v3Input0Guard message word
  | v3Input1 => v3Input1Guard message word
  | v3Output0 => v3Output0Guard message word
  | v3Output1 => v3Output1Guard message word
  | v3Input0Multi => v3Input0MultiGuard message cursor word
  | v3Input1Multi => v3Input1MultiGuard message cursor word
  | v3Output0Multi => v3Output0MultiGuard message cursor word
  | v3Output1Multi => v3Output1MultiGuard message cursor word

/-- The bytes of a segment; a single swap has none. -/
def length : V3Handler → ℕ
  | v3Input0 | v3Input1 | v3Output0 | v3Output1 => 0
  | v3Input0Multi | v3Input1Multi => 0x40
  | v3Output0Multi | v3Output1Multi => 0x54

/-- A single swap starts on a fresh machine, a segment with the cursor on the stack. -/
def start (cursor : ℕ) (memory : Memory) (events : List Event) : V3Handler → Machine
  | v3Input0 | v3Input1 | v3Output0 | v3Output1 => Machine.initial
  | _ => ⟨[BitVec.ofNat 256 cursor], memory, events⟩

/-- A single swap goes on to the exit, a segment to the label behind it. -/
def next (message : Message) (cursor : ℕ) (handler : V3Handler) : ℕ :=
  match handler with
  | v3Input0 | v3Input1 | v3Output0 | v3Output1 => 0x2e
  | _ => (message.data (cursor + handler.length)).toNat

/-- A segment leaves the moved cursor on the stack. -/
def stack (cursor : ℕ) (handler : V3Handler) : List Word :=
  match handler with
  | v3Input0 | v3Input1 | v3Output0 | v3Output1 => []
  | _ => [BitVec.ofNat 256 (cursor + handler.length)]

/-- The calls up to and with its own. -/
def calls (message : Message) (cursor : ℕ) (events : List Event) (handler : V3Handler) :
    List Event :=
  (handler.start cursor zero events).events ++ [(handler.swap message cursor).call message.address]

/-- The handler makes its call and then goes on exactly when `passed` holds. -/
def Decides (world : World) (message : Message) (cursor : ℕ) (memory : Memory)
    (events : List Event) (behind : Code Label) (passed : Prop) (handler : V3Handler) : Prop :=
  (sandwich world message).Attempts (handler.handler.code ++ behind)
    (handler.start cursor memory events) passed (handler.next message cursor)
    (handler.stack cursor) (handler.calls message cursor events)

/-- The limits a payload encodes. The amount of a single frontrun has four or five bytes: the helper of
the tests packs four, the payload builder five. -/
def Encodes (message : Message) (cursor maximum minimum : ℕ) : V3Handler → Prop
  | v3Input0 | v3Input1 => maximum = message.callvalue.toNat * 2 ^ 32
      ∧ (PackedAt message.data 0x16 0x17 4 minimum ∨ PackedAt message.data 0x16 0x17 5 minimum)
  | v3Output0 | v3Output1 => PackedAt message.data 0x16 0x17 5 maximum
      ∧ minimum = message.callvalue.toNat * 2 ^ 32
  | v3Input0Multi | v3Input1Multi =>
      PackedAt message.data (cursor + 0x15) (cursor + 0x16) 4 maximum
        ∧ PackedAt message.data (cursor + 0x1a) (cursor + 0x1b) 5 minimum
  | v3Output0Multi | v3Output1Multi =>
      PackedAt message.data (cursor + 0x1a) (cursor + 0x1b) 5 maximum
        ∧ PackedAt message.data (cursor + 0x15) (cursor + 0x16) 4 minimum

/-- A well-formed payload: both limits are amounts that a pool understands, and a segment ends before
the calldata does. -/
structure WellFormed (message : Message) (cursor maximum minimum : ℕ) (handler : V3Handler) :
    Prop where
  encodes : handler.Encodes message cursor maximum minimum
  maximum_lt : maximum < 2 ^ 255
  minimum_lt : minimum < 2 ^ 255
  room : cursor + handler.length < 2 ^ 256

/-- When the decision of a handler is the right one. -/
def Exact (message : Message) (maximum minimum : ℕ) (paid received : Int) : V3Handler → Prop
  | v3Input0 | v3Output1 | v3Input0Multi | v3Output1Multi =>
      (minimum ≤ received → paid ≠ maximum) ∧ (received < minimum → maximum ≤ paid)
  | v3Input1 =>
      let minimum4 := (packedWord message.data 0x16 0x17 4).toNat
      (received = minimum → minimum4 ≠ minimum) ∧ ¬ (minimum4 < received ∧ received < minimum)
  | v3Output0 => received ≠ minimum
  | v3Input1Multi | v3Output0Multi => True

end V3Handler

/-! ### The three comparisons -/

section Comparisons

variable {swap : V3Swap} {amount0 amount1 : Word} {maximum minimum : ℕ}

/-- An exact input is a bound on what the pool takes. -/
theorem V3Swap.Returns.paid_le (returns : swap.Returns amount0 amount1)
    (value : swap.amountSpecified.toNat = maximum) (small : maximum < 2 ^ 255) :
    swap.paid amount0 amount1 ≤ maximum := by
  have signed : swap.amountSpecified.toInt = maximum := by
    rw [← value]
    exact BitVec.toInt_eq_toNat_of_lt (by omega)
  have positive : 0 < swap.amountSpecified.toInt := by
    rcases Nat.eq_zero_or_pos maximum with zero | positive
    · have nothing : swap.amountSpecified = 0 := BitVec.eq_of_toNat_eq (value.trans zero)
      exact absurd nothing returns.specified
    · omega
  rw [← signed]
  exact returns.exactInput positive

/-- Taking less than the maximum is not the same as taking at most that and giving enough. -/
theorem takesLess_exact_iff (bound : Word) (side : swap.zeroForOne = true) (returns : swap.Returns amount0 amount1)
    (value : bound.toNat = maximum) :
    (decide (amount0 < bound) = true
        ↔ swap.paid amount0 amount1 ≤ maximum ∧ minimum ≤ swap.received amount0 amount1)
      ↔ (minimum ≤ swap.received amount0 amount1 → swap.paid amount0 amount1 ≠ maximum)
        ∧ (swap.received amount0 amount1 < minimum → maximum ≤ swap.paid amount0 amount1) := by
  have paid := V3Swap.paid_eq side returns.takes
  rw [decide_eq_true_iff, BitVec.lt_def, value, paid]
  omega

/-- Giving more than a bound below the minimum is not the same as giving the minimum. -/
theorem givesMore_exact_iff (bound : Word) (side : swap.zeroForOne = false)
    (returns : swap.Returns amount0 amount1) (low : bound.toNat ≤ minimum)
    (whole : swap.paid amount0 amount1 ≤ maximum) :
    (decide (bound < 0 - amount0) = true
        ↔ swap.paid amount0 amount1 ≤ maximum ∧ minimum ≤ swap.received amount0 amount1)
      ↔ (swap.received amount0 amount1 = minimum → bound.toNat ≠ minimum)
        ∧ ¬ (bound.toNat < swap.received amount0 amount1
          ∧ swap.received amount0 amount1 < minimum) := by
  obtain ⟨received, -⟩ := V3Swap.received_eq side returns.gives
  rw [decide_eq_true_iff, BitVec.lt_def, received]
  omega

/-- One more than what the pool gave is more than the minimum exactly when it gave enough. -/
theorem givesEnough_exact (bound : Word) (side : swap.zeroForOne = false) (returns : swap.Returns amount0 amount1)
    (value : bound.toNat = minimum) (whole : swap.paid amount0 amount1 ≤ maximum) :
    decide (bound < 1 - amount0) = true
      ↔ swap.paid amount0 amount1 ≤ maximum ∧ minimum ≤ swap.received amount0 amount1 := by
  obtain ⟨-, received⟩ := V3Swap.received_eq side returns.gives
  rw [decide_eq_true_iff, BitVec.lt_def, value]
  omega

end Comparisons

/-! ### The decisions -/

namespace V3Handler

variable {world : World} {message : Message} {cursor maximum minimum : ℕ} {memory : Memory}
  {events : List Event} {behind : Code Label} {amount0 amount1 : Word}

/-- Every handler goes on when its call succeeded and the first word passes. -/
theorem decides (world : World) (message : Message) (memory : Memory) (events : List Event)
    (behind : Code Label) (handler : V3Handler) (room : cursor + handler.length < 2 ^ 256) :
    handler.Decides world message cursor memory events behind
      ((world.reply (handler.calls message cursor events)).success = true
        ∧ handler.guard message cursor ((handler.swap message cursor).returned message.address
          (world.reply (handler.calls message cursor events)).output) = true) := by
  cases handler with
  | v3Input0 => exact v3Input0_attempts rfl
  | v3Input1 => exact v3Input1_attempts rfl
  | v3Output0 => exact v3Output0_attempts rfl
  | v3Output1 => exact v3Output1_attempts rfl
  | v3Input0Multi => exact v3Input0Multi_attempts room rfl
  | v3Input1Multi => exact v3Input1Multi_attempts room rfl
  | v3Output0Multi => exact v3Output0Multi_attempts room rfl
  | v3Output1Multi => exact v3Output1Multi_attempts room rfl

theorem toNat_callvalue {amount : ℕ} (value : amount = message.callvalue.toNat * 2 ^ 32)
    (small : amount < 2 ^ 255) : (message.callvalue <<< 0x20).toNat = amount := by
  rw [BitVec.toNat_shiftLeft, Nat.shiftLeft_eq, ← value]
  exact Nat.mod_eq_of_lt (lt_trans small (by norm_num))

/-- When the pool returned its two amounts, the handler decides by the first one. -/
theorem decides_of_replied (handler : V3Handler) (room : cursor + handler.length < 2 ^ 256)
    (replied : world.reply (handler.calls message cursor events)
      = ⟨true, encodeWords [amount0.toNat, amount1.toNat]⟩) :
    handler.Decides world message cursor memory events behind
      (handler.guard message cursor amount0 = true) := by
  have word : (handler.swap message cursor).returned message.address
      (encodeWords [amount0.toNat, amount1.toNat]) = amount0 := by
    rw [V3Swap.returned_eq _ _ (by simp)]
    apply BitVec.eq_of_toNat_eq
    rw [toNat_wordAt, encodeWords_cons, window_append_left (by simp), window_bigEndian]
    exact Nat.mod_eq_of_lt amount0.isLt
  have decides := handler.decides world message memory events behind room
  simpa only [replied, word, true_and] using decides

/-- Comparing one word with one bound is right exactly on the listed inputs. -/
theorem guard_exact_iff (handler : V3Handler)
    (formed : handler.WellFormed message cursor maximum minimum)
    (returns : (handler.swap message cursor).Returns amount0 amount1) :
    (handler.guard message cursor amount0 = true
        ↔ (handler.swap message cursor).paid amount0 amount1 ≤ maximum
          ∧ minimum ≤ (handler.swap message cursor).received amount0 amount1)
      ↔ handler.Exact message maximum minimum
        ((handler.swap message cursor).paid amount0 amount1)
        ((handler.swap message cursor).received amount0 amount1) := by
  obtain ⟨encodes, maximum_lt, minimum_lt, room⟩ := formed
  cases handler with
  | v3Input0 =>
    rw [guard, Exact]
    exact takesLess_exact_iff (message.callvalue <<< 0x20) rfl returns
      (toNat_callvalue encodes.1 maximum_lt)
  | v3Input1 =>
    have low : (packedWord message.data 0x16 0x17 4).toNat ≤ minimum := by
      rcases encodes.2 with four | five
      · exact four.toNat_eq.le
      · rw [← five.toNat_eq]
        exact packedWord_le_succ _ _ _ 4 (by norm_num)
    rw [guard, Exact]
    exact givesMore_exact_iff (packedWord message.data 0x16 0x17 4) rfl returns low
      (returns.paid_le (toNat_callvalue encodes.1 maximum_lt) maximum_lt)
  | v3Output0 =>
    have bound := toNat_callvalue encodes.2 minimum_lt
    have verdict := givesMore_exact_iff (message.callvalue <<< 0x20) rfl returns bound.le
      (returns.paid_le encodes.1.toNat_eq maximum_lt)
    rw [guard, Exact]
    refine verdict.trans ?_
    rw [bound]
    omega
  | v3Output1 =>
    rw [guard, Exact]
    exact takesLess_exact_iff (packedWord message.data 0x16 0x17 5) rfl returns encodes.1.toNat_eq
  | v3Input0Multi =>
    rw [guard, Exact]
    exact takesLess_exact_iff (packedWord message.data (cursor + 0x15) (cursor + 0x16) 4) rfl returns
      encodes.1.toNat_eq
  | v3Input1Multi =>
    rw [guard, Exact]
    exact iff_of_true (givesEnough_exact
      (packedWord message.data (cursor + 0x1a) (cursor + 0x1b) 5) rfl returns encodes.2.toNat_eq
      (returns.paid_le encodes.1.toNat_eq maximum_lt)) trivial
  | v3Output0Multi =>
    rw [guard, Exact]
    exact iff_of_true (givesEnough_exact
      (packedWord message.data (cursor + 0x15) (cursor + 0x16) 4) rfl returns encodes.2.toNat_eq
      (returns.paid_le encodes.1.toNat_eq maximum_lt)) trivial
  | v3Output1Multi =>
    rw [guard, Exact]
    exact takesLess_exact_iff (packedWord message.data (cursor + 0x1a) (cursor + 0x1b) 5) rfl returns
      encodes.1.toNat_eq

end V3Handler

/-- A handler goes on exactly when the pool took at most the maximum and gave at least the minimum, on
the inputs of `V3Handler.Exact` and on no others. -/
theorem v3_guard_exact_iff (handler : V3Handler) (world : World) (message : Message) (cursor : ℕ)
    (memory : Memory) (events : List Event) (behind : Code Label) (maximum minimum : ℕ)
    (amount0 amount1 : Word) (formed : handler.WellFormed message cursor maximum minimum)
    (returns : (handler.swap message cursor).Returns amount0 amount1)
    (replied : world.reply (handler.calls message cursor events)
      = ⟨true, encodeWords [amount0.toNat, amount1.toNat]⟩) :
    handler.Decides world message cursor memory events behind
        ((handler.swap message cursor).paid amount0 amount1 ≤ maximum
          ∧ minimum ≤ (handler.swap message cursor).received amount0 amount1)
      ↔ handler.Exact message maximum minimum
        ((handler.swap message cursor).paid amount0 amount1)
        ((handler.swap message cursor).received amount0 amount1) :=
  (handler.decides_of_replied formed.room replied).passed_iff.trans
    (handler.guard_exact_iff formed returns)

/-- A frontrun for WETH as token 0 that asks for two billion units and pays at most `2 ^ 32` wei. -/
def partialFill : Message where
  caller := searcherAddress
  origin := searcherAddress
  address := 1
  callvalue := 1
  calldata := List.replicate 0x16 0 ++ [216] ++ bigEndian 5 2000000000 ++ List.replicate 0x20 0
  number := 0
  calldata_fits := by simp

/-- A pool that takes one wei and gives nothing. -/
def partialFillWorld : World := ⟨fun _ => 0, fun _ => ⟨true, encodeWords [1, 0]⟩, fun _ => 0, 0⟩

theorem partialFill_formed : V3Handler.v3Input0.WellFormed partialFill 0 (2 ^ 32) 2000000000 :=
  ⟨⟨rfl, Or.inr ⟨0, by decide, by decide, by decide⟩⟩, by norm_num, by norm_num, by decide⟩

theorem partialFill_returns : (V3Handler.v3Input0.swap partialFill 0).Returns 1 0 :=
  ⟨by decide, by decide, by decide, by decide, by decide⟩

/-- On that swap the decision is not the right one. -/
theorem v3_guard_exact_iff_partialFill :
    V3Handler.v3Input0.Decides partialFillWorld partialFill 0 zero [] []
        ((V3Handler.v3Input0.swap partialFill 0).paid 1 0 ≤ (2 ^ 32 : ℕ)
          ∧ (2000000000 : ℕ) ≤ (V3Handler.v3Input0.swap partialFill 0).received 1 0)
      ↔ V3Handler.v3Input0.Exact partialFill (2 ^ 32) 2000000000
        ((V3Handler.v3Input0.swap partialFill 0).paid 1 0)
        ((V3Handler.v3Input0.swap partialFill 0).received 1 0) :=
  v3_guard_exact_iff .v3Input0 partialFillWorld partialFill 0 zero [] [] (2 ^ 32) 2000000000 1 0
    partialFill_formed partialFill_returns rfl

/-- The handler accepts it, although it received nothing. -/
theorem v3_input0_accepts_partialFill :
    V3Handler.v3Input0.WellFormed partialFill 0 (2 ^ 32) 2000000000
      ∧ (V3Handler.v3Input0.swap partialFill 0).Returns 1 0
      ∧ V3Handler.v3Input0.Decides partialFillWorld partialFill 0 zero [] [] True
      ∧ ¬ V3Handler.v3Input0.Decides partialFillWorld partialFill 0 zero [] []
        ((V3Handler.v3Input0.swap partialFill 0).paid 1 0 ≤ (2 ^ 32 : ℕ)
          ∧ (2000000000 : ℕ) ≤ (V3Handler.v3Input0.swap partialFill 0).received 1 0) := by
  have replied : partialFillWorld.reply (V3Handler.v3Input0.calls partialFill 0 [])
      = ⟨true, encodeWords [(1 : Word).toNat, (0 : Word).toNat]⟩ := rfl
  have decides : V3Handler.v3Input0.Decides partialFillWorld partialFill 0 zero [] []
      (V3Handler.v3Input0.guard partialFill 0 1 = true) :=
    V3Handler.v3Input0.decides_of_replied (by decide) replied
  refine ⟨partialFill_formed, partialFill_returns, decides.passed_iff.mpr (by decide), ?_⟩
  rw [V3Handler.Decides, Attempts.passed_iff decides]
  decide

end Sando.Huff
