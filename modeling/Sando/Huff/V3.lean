/-
The V3 handlers.

A V3 handler makes one call and then compares the first word the pool returned with a bound of its
own. The `Swap` definitions say what a handler reads from the payload; the `attempts` theorems say that
it calls the pool with that and nothing else, and goes on when the call succeeded and the word passes.
A single handler runs on a fresh machine and jumps to the exit; a segment of a chain finds a cursor on
the stack and any memory, and jumps to the label behind itself.
-/

import Sando.Huff.Arguments
import Sando.Huff.Layout

namespace Sando.Huff

open Sando.Evm Sando.Evm.Context Memory

/-! ### The handlers -/

/-- The V3 handlers. -/
inductive V3Handler
  | v3Input0 | v3Input1 | v3Output0 | v3Output1
  | v3Input0Multi | v3Input1Multi | v3Output0Multi | v3Output1Multi
  deriving DecidableEq

/-- The handler, among those of the contract. -/
def V3Handler.handler : V3Handler → Handler
  | .v3Input0 => .v3Input0
  | .v3Input1 => .v3Input1
  | .v3Output0 => .v3Output0
  | .v3Output1 => .v3Output1
  | .v3Input0Multi => .v3Input0Multi
  | .v3Input1Multi => .v3Input1Multi
  | .v3Output0Multi => .v3Output0Multi
  | .v3Output1Multi => .v3Output1Multi

/-! ### What a payload says -/

/-- A packed amount: `count` bytes at `fieldOffset`, left-aligned and shifted right by the byte at
`shiftOffset`. -/
def packedWord (bytes : ℕ → Byte) (shiftOffset fieldOffset count : ℕ) : Word :=
  BitVec.ofNat 256 (window bytes fieldOffset count * 256 ^ (32 - count))
    >>> (bytes shiftOffset).toNat

/-- The same, the way the code computes it: the mask keeps the leading bytes. -/
abbrev packed (mask : Word) (message : Message) (shiftOffset fieldOffset : ℕ) : Word :=
  (mask &&& load message.frame fieldOffset)
    >>> ((byteOf (load message.frame shiftOffset) 0).setWidth 256).toNat

/-- Five bytes. -/
abbrev packed5 : Message → ℕ → ℕ → Word :=
  packed 0xffffffffff000000000000000000000000000000000000000000000000000000

/-- Four bytes. -/
abbrev packed4 : Message → ℕ → ℕ → Word :=
  packed 0xffffffff00000000000000000000000000000000000000000000000000000000

section Packed

variable {bytes : ℕ → Byte} {shiftOffset fieldOffset count shift : ℕ}

/-- A packed amount whose shift counts whole bytes. -/
theorem toNat_packedWord (small : count + shift ≤ 32)
    (place : (bytes shiftOffset).toNat = (32 - count - shift) * 8) :
    (packedWord bytes shiftOffset fieldOffset count).toNat
      = window bytes fieldOffset count * 256 ^ shift := by
  have bound := window_lt bytes fieldOffset count
  have fits : window bytes fieldOffset count * 256 ^ (32 - count) < 2 ^ 256 := by
    calc window bytes fieldOffset count * 256 ^ (32 - count)
        < 256 ^ count * 256 ^ (32 - count) := Nat.mul_lt_mul_of_pos_right bound (by positivity)
      _ = 2 ^ 256 := by rw [← pow_add, show count + (32 - count) = 32 by omega]; norm_num
  have power : (2 : ℕ) ^ ((32 - count - shift) * 8) = 256 ^ (32 - count - shift) := by
    rw [Nat.mul_comm, pow_mul]
    norm_num
  rw [packedWord, BitVec.toNat_ushiftRight, BitVec.toNat_ofNat, Nat.mod_eq_of_lt fits,
    Nat.shiftRight_eq_div_pow, place, power,
    show (256 : ℕ) ^ (32 - count) = 256 ^ shift * 256 ^ (32 - count - shift) by
      rw [← pow_add]; congr 1; omega,
    ← Nat.mul_assoc, Nat.mul_div_cancel _ (by positivity)]

variable {message : Message}

theorem packed_eq {mask : Word} (count : ℕ) (small : count ≤ 32)
    (shape : mask.toNat = (2 ^ (8 * count) - 1) * 2 ^ (8 * (32 - count))) (shiftOffset fieldOffset : ℕ) :
    packed mask message shiftOffset fieldOffset
      = packedWord message.data shiftOffset fieldOffset count := by
  rw [packed, packedWord, load_byte message shiftOffset shiftOffset (by norm_num) rfl,
    ← toNat_load_mask message fieldOffset mask count small shape, BitVec.ofNat_toNat, BitVec.setWidth_eq]

theorem packed5_eq (shiftOffset fieldOffset : ℕ) :
    packed5 message shiftOffset fieldOffset = packedWord message.data shiftOffset fieldOffset 5 :=
  packed_eq 5 (by norm_num) (by decide) shiftOffset fieldOffset

theorem packed4_eq (shiftOffset fieldOffset : ℕ) :
    packed4 message shiftOffset fieldOffset = packedWord message.data shiftOffset fieldOffset 4 :=
  packed_eq 4 (by norm_num) (by decide) shiftOffset fieldOffset

end Packed

/-! ### Going on -/

section Guarded

variable {world : World} {message : Message} {code rest : Code Label} {machine : Machine}
  {target : Word} {stack : List Word} {arguments last : Memory} {calls : List Event} {label : ℕ}

/-- A handler that jumps when its call succeeded and the first word passes `guard`. -/
theorem guarded_attempts (swap : V3Swap) (guard : Word → Bool)
    (reads : slice arguments 0 0xf9 = swap.input message.address)
    (run : (sandwich world message).block code machine = .branch target
      (boolWord (guard (wordAt (copy arguments 0x00 0x40 (world.reply calls).output) 0x00))
        &&& boolWord (world.reply calls).success) rest ⟨stack, last, calls⟩)
    (lands : target.toNat = label)
    (reverts : ∃ final, (sandwich world message).block rest ⟨stack, last, calls⟩
      = .halt .revert ⟨final, last, calls⟩) :
    (sandwich world message).Attempts code machine
      ((world.reply calls).success = true
        ∧ guard (swap.returned message.address (world.reply calls).output) = true)
      label stack calls := by
  obtain ⟨final, reverts⟩ := reverts
  have word : wordAt (copy arguments 0x00 0x40 (world.reply calls).output) 0x00
      = swap.returned message.address (world.reply calls).output := by
    apply BitVec.eq_of_toNat_eq
    rw [V3Swap.returned, toNat_wordAt, toNat_wordAt]
    refine window_congr fun index small => ?_
    have argument : arguments (0x00 + index) = byteAt (swap.input message.address) (0x00 + index) := by
      rw [← reads, byteAt, slice, List.getD_eq_getElem?_getD,
        List.getElem?_eq_getElem (by simp; omega)]
      simp
    simp only [copy, argument]
  refine ⟨target, _, rest, last, final, run, lands, ?_, reverts⟩
  rw [boolWord_and, boolWord_ne_zero, Bool.and_eq_true, word, and_comm]

end Guarded

/-! ### Single swaps -/

section Single

variable {world : World} {message : Message} {behind : Code Label} {calls : List Event}

/-- The frontrun for WETH as token 0 fixes its output. -/
def v3Input0Swap (message : Message) : V3Swap where
  pool := addressAt message.data 0x02
  zeroForOne := true
  amountSpecified := 0 - packedWord message.data 0x16 0x17 5
  token := wethAddress
  poolKeyHash := wordAt message.data 0x1b

/-- It goes on when the pool took less than the maximum. -/
def v3Input0Guard (message : Message) (word : Word) : Bool :=
  word < message.callvalue <<< 0x20

theorem v3Input0_attempts (listed : calls = [(v3Input0Swap message).call message.address]) :
    (sandwich world message).Attempts (v3Input0 ++ behind) Machine.initial
      ((world.reply calls).success = true ∧ v3Input0Guard message
        ((v3Input0Swap message).returned message.address
          (world.reply calls).output) = true)
      0x2e [] calls := by
  obtain ⟨arguments, made, last, shape, written, run⟩ : ∃ arguments made last,
      arguments = poolSwapTail
        ((poolSwapHead zero (message.address.setWidth 256)).mstore 0x24 0x01)
        (0 - (packed5 message 0x16 0x17))
        minSqrtPriceLimitX96
        (weth <<< (0x58 : ℕ)
          + 0x0100000000000000000000000000000000000000000000000000000000000000)
        (load message.frame 0x1b)
      ∧ made = [.call ((load message.frame 0x02 >>> 0x60).setWidth 160) 0 (slice arguments 0 0xf9)]
      ∧ (sandwich world message).block (v3Input0 ++ behind) Machine.initial
        = .branch ((sandwich world message).labelWord .exit)
            (boolWord (wordAt (copy arguments 0x00 0x40 (world.reply made).output) 0x00
                < message.callvalue <<< 0x20)
              &&& boolWord (world.reply made).success)
            ([.push 0x00, .dup 1, .revert] ++ behind) ⟨[], last, made⟩ :=
    ⟨_, _, _, rfl, rfl, rfl⟩
  have reads : slice arguments 0 0xf9 = (v3Input0Swap message).input message.address := by
    rw [shape, packed5_eq]
    exact slice_poolSwapArguments (v3Input0Swap message) message.address rfl
  have same : made = calls := by
    rw [written, listed, reads, load_address, setWidth_setWidth_address]
    rfl
  subst same
  exact guarded_attempts (v3Input0Swap message) (v3Input0Guard message) reads run labelWord_exit
    ⟨_, rfl⟩

/-- The frontrun for WETH as token 1 fixes its input. -/
def v3Input1Swap (message : Message) : V3Swap where
  pool := addressAt message.data 0x02
  zeroForOne := false
  amountSpecified := message.callvalue <<< 0x20
  token := wethAddress
  poolKeyHash := wordAt message.data 0x1b

/-- It goes on when the pool gave more than the minimum. -/
def v3Input1Guard (message : Message) (word : Word) : Bool :=
  packedWord message.data 0x16 0x17 4 < 0 - word

theorem v3Input1_attempts (listed : calls = [(v3Input1Swap message).call message.address]) :
    (sandwich world message).Attempts (v3Input1 ++ behind) Machine.initial
      ((world.reply calls).success = true ∧ v3Input1Guard message
        ((v3Input1Swap message).returned message.address
          (world.reply calls).output) = true)
      0x2e [] calls := by
  obtain ⟨arguments, made, last, shape, written, run⟩ : ∃ arguments made last,
      arguments = poolSwapTail
        (poolSwapHead zero (message.address.setWidth 256))
        (message.callvalue <<< 0x20) maxSqrtPriceLimitX96
        (weth <<< (0x58 : ℕ))
        (load message.frame 0x1b)
      ∧ made = [.call ((load message.frame 0x02 >>> 0x60).setWidth 160) 0 (slice arguments 0 0xf9)]
      ∧ (sandwich world message).block (v3Input1 ++ behind) Machine.initial
        = .branch ((sandwich world message).labelWord .exit)
            (boolWord (packed4 message 0x16 0x17
                < 0 - wordAt (copy arguments 0x00 0x40 (world.reply made).output) 0x00)
              &&& boolWord (world.reply made).success)
            ([.push 0x00, .dup 1, .revert] ++ behind) ⟨[], last, made⟩ :=
    ⟨_, _, _, rfl, rfl, rfl⟩
  have reads : slice arguments 0 0xf9 = (v3Input1Swap message).input message.address := by
    rw [shape]
    exact slice_poolSwapFreshArguments (v3Input1Swap message) message.address rfl
  have same : made = calls := by
    rw [written, listed, reads, load_address, setWidth_setWidth_address]
    rfl
  rw [packed4_eq] at run
  subst same
  exact guarded_attempts (v3Input1Swap message) (v3Input1Guard message) reads run labelWord_exit
    ⟨_, rfl⟩

/-- The backrun for WETH as token 0 fixes its input. -/
def v3Output0Swap (message : Message) : V3Swap where
  pool := addressAt message.data 0x02
  zeroForOne := false
  amountSpecified := packedWord message.data 0x16 0x17 5
  token := addressAt message.data 0x1c
  poolKeyHash := wordAt message.data 0x30

/-- It goes on when the pool gave more than the minimum. -/
def v3Output0Guard (message : Message) (word : Word) : Bool :=
  message.callvalue <<< 0x20 < 0 - word

theorem v3Output0_attempts (listed : calls = [(v3Output0Swap message).call message.address]) :
    (sandwich world message).Attempts (v3Output0 ++ behind) Machine.initial
      ((world.reply calls).success = true ∧ v3Output0Guard message
        ((v3Output0Swap message).returned message.address
          (world.reply calls).output) = true)
      0x2e [] calls := by
  obtain ⟨arguments, made, last, shape, written, run⟩ : ∃ arguments made last,
      arguments = poolSwapTail
        (poolSwapHead zero (message.address.setWidth 256))
        (packed5 message 0x16 0x17)
        maxSqrtPriceLimitX96
        ((load message.frame 0x1c >>> 0x60) <<< (0x58 : ℕ))
        (load message.frame 0x30)
      ∧ made = [.call ((load message.frame 0x02 >>> 0x60).setWidth 160) 0 (slice arguments 0 0xf9)]
      ∧ (sandwich world message).block (v3Output0 ++ behind) Machine.initial
        = .branch ((sandwich world message).labelWord .exit)
            (boolWord (message.callvalue <<< 0x20
                < 0 - wordAt (copy arguments 0x00 0x40 (world.reply made).output) 0x00)
              &&& boolWord (world.reply made).success)
            ([.push 0x00, .dup 1, .revert] ++ behind) ⟨[], last, made⟩ :=
    ⟨_, _, _, rfl, rfl, rfl⟩
  have reads : slice arguments 0 0xf9 = (v3Output0Swap message).input message.address := by
    rw [shape, packed5_eq, load_address]
    exact slice_poolSwapFreshArguments (v3Output0Swap message) message.address rfl
  have same : made = calls := by
    rw [written, listed, reads, load_address, setWidth_setWidth_address]
    rfl
  subst same
  exact guarded_attempts (v3Output0Swap message) (v3Output0Guard message) reads run labelWord_exit
    ⟨_, rfl⟩

/-- The backrun for WETH as token 1 fixes its output. -/
def v3Output1Swap (message : Message) : V3Swap where
  pool := addressAt message.data 0x02
  zeroForOne := true
  amountSpecified := 0 - message.callvalue <<< 0x20
  token := addressAt message.data 0x1c
  poolKeyHash := wordAt message.data 0x30

/-- It goes on when the pool took less than the maximum. -/
def v3Output1Guard (message : Message) (word : Word) : Bool :=
  word < packedWord message.data 0x16 0x17 5

theorem v3Output1_attempts (listed : calls = [(v3Output1Swap message).call message.address]) :
    (sandwich world message).Attempts (v3Output1 ++ behind) Machine.initial
      ((world.reply calls).success = true ∧ v3Output1Guard message
        ((v3Output1Swap message).returned message.address
          (world.reply calls).output) = true)
      0x2e [] calls := by
  obtain ⟨arguments, made, last, shape, written, run⟩ : ∃ arguments made last,
      arguments = poolSwapTail
        ((poolSwapHead zero (message.address.setWidth 256)).mstore 0x24 0x01)
        (0 - message.callvalue <<< 0x20) minSqrtPriceLimitX96
        ((load message.frame 0x1c >>> 0x60) <<< (0x58 : ℕ)
          + 0x0100000000000000000000000000000000000000000000000000000000000000)
        (load message.frame 0x30)
      ∧ made = [.call ((load message.frame 0x02 >>> 0x60).setWidth 160) 0 (slice arguments 0 0xf9)]
      ∧ (sandwich world message).block (v3Output1 ++ behind) Machine.initial
        = .branch ((sandwich world message).labelWord .exit)
            (boolWord (wordAt (copy arguments 0x00 0x40 (world.reply made).output) 0x00
                < packed5 message 0x16 0x17)
              &&& boolWord (world.reply made).success)
            ([.push 0x00, .dup 1, .revert] ++ behind) ⟨[], last, made⟩ :=
    ⟨_, _, _, rfl, rfl, rfl⟩
  have reads : slice arguments 0 0xf9 = (v3Output1Swap message).input message.address := by
    rw [shape, load_address]
    exact slice_poolSwapArguments (v3Output1Swap message) message.address rfl
  have same : made = calls := by
    rw [written, listed, reads, load_address, setWidth_setWidth_address]
    rfl
  rw [packed5_eq] at run
  subst same
  exact guarded_attempts (v3Output1Swap message) (v3Output1Guard message) reads run labelWord_exit
    ⟨_, rfl⟩

end Single

/-! ### Segments of a chain -/

section Multi

variable {world : World} {message : Message} {behind : Code Label} {calls events : List Event}
  {memory : Memory} {cursor : ℕ}

/-- A frontrun segment for WETH as token 0 fixes its output. -/
def v3Input0MultiSwap (message : Message) (cursor : ℕ) : V3Swap where
  pool := addressAt message.data (cursor + 0x01)
  zeroForOne := true
  amountSpecified := 0 - packedWord message.data (cursor + 0x1a) (cursor + 0x1b) 5
  token := wethAddress
  poolKeyHash := wordAt message.data (cursor + 0x20)

/-- It goes on when the pool took less than the maximum. -/
def v3Input0MultiGuard (message : Message) (cursor : ℕ) (word : Word) : Bool :=
  word < packedWord message.data (cursor + 0x15) (cursor + 0x16) 4

theorem v3Input0Multi_attempts (room : cursor + 0x40 < 2 ^ 256)
    (listed : calls = events ++ [(v3Input0MultiSwap message cursor).call message.address]) :
    (sandwich world message).Attempts (v3Input0Multi ++ behind)
      ⟨[BitVec.ofNat 256 cursor], memory, events⟩
      ((world.reply calls).success = true ∧ v3Input0MultiGuard message cursor
        ((v3Input0MultiSwap message cursor).returned message.address
          (world.reply calls).output) = true)
      (message.data (cursor + 0x40)).toNat [BitVec.ofNat 256 (cursor + 0x40)] calls := by
  obtain ⟨arguments, made, last, shape, written, run⟩ : ∃ arguments made last,
      arguments = poolSwapTail
        ((poolSwapHead memory (message.address.setWidth 256)).mstore 0x24 0x01)
        (0 - (packed5 message (ahead 0x1a cursor) (ahead 0x1b cursor)))
        minSqrtPriceLimitX96
        (weth <<< (0x58 : ℕ)
          + 0x0100000000000000000000000000000000000000000000000000000000000000)
        (load message.frame (ahead 0x20 cursor))
      ∧ made = events ++ [
          .call ((load message.frame (ahead 0x01 cursor) >>> 0x60).setWidth 160) 0
            (slice arguments 0 0xf9)]
      ∧ (sandwich world message).block (v3Input0Multi ++ behind)
          ⟨[BitVec.ofNat 256 cursor], memory, events⟩
        = .branch ((byteOf (load message.frame (ahead 0x40 cursor)) 0).setWidth 256)
            (boolWord (wordAt (copy arguments 0x00 0x40 (world.reply made).output) 0x00
                < packed4 message (ahead 0x15 cursor) (ahead 0x16 cursor))
              &&& boolWord (world.reply made).success)
            ([.chainid, .dup 1, .revert] ++ behind)
            ⟨[0x40 + BitVec.ofNat 256 cursor], last, made⟩ :=
    ⟨_, _, _, rfl, rfl, rfl⟩
  have reads : slice arguments 0 0xf9 = (v3Input0MultiSwap message cursor).input message.address := by
    rw [shape, ahead_eq 0x1a 0x1a rfl (by omega), ahead_eq 0x1b 0x1b rfl (by omega),
      ahead_eq 0x20 0x20 rfl (by omega), packed5_eq]
    exact slice_poolSwapArguments (v3Input0MultiSwap message cursor) message.address rfl
  have same : made = calls := by
    rw [written, listed, reads, ahead_eq 0x01 0x01 rfl (by omega), load_address,
      setWidth_setWidth_address]
    rfl
  rw [ahead_eq 0x15 0x15 rfl (by omega), ahead_eq 0x16 0x16 rfl (by omega),
    ahead_eq 0x40 0x40 rfl room, step_cursor 0x40 0x40 rfl, packed4_eq] at run
  subst same
  exact guarded_attempts (v3Input0MultiSwap message cursor) (v3Input0MultiGuard message cursor) reads run
    (load_byte message (cursor + 0x40) (cursor + 0x40) (by norm_num) rfl) ⟨_, rfl⟩

/-- A frontrun segment for WETH as token 1 fixes its input. -/
def v3Input1MultiSwap (message : Message) (cursor : ℕ) : V3Swap where
  pool := addressAt message.data (cursor + 0x01)
  zeroForOne := false
  amountSpecified := packedWord message.data (cursor + 0x15) (cursor + 0x16) 4
  token := wethAddress
  poolKeyHash := wordAt message.data (cursor + 0x20)

/-- It goes on when the pool gave at least the minimum. -/
def v3Input1MultiGuard (message : Message) (cursor : ℕ) (word : Word) : Bool :=
  packedWord message.data (cursor + 0x1a) (cursor + 0x1b) 5 < 1 - word

theorem v3Input1Multi_attempts (room : cursor + 0x40 < 2 ^ 256)
    (listed : calls = events ++ [(v3Input1MultiSwap message cursor).call message.address]) :
    (sandwich world message).Attempts (v3Input1Multi ++ behind)
      ⟨[BitVec.ofNat 256 cursor], memory, events⟩
      ((world.reply calls).success = true ∧ v3Input1MultiGuard message cursor
        ((v3Input1MultiSwap message cursor).returned message.address
          (world.reply calls).output) = true)
      (message.data (cursor + 0x40)).toNat [BitVec.ofNat 256 (cursor + 0x40)] calls := by
  obtain ⟨arguments, made, last, shape, written, run⟩ : ∃ arguments made last,
      arguments = poolSwapTail
        ((poolSwapHead memory (message.address.setWidth 256)).mstore 0x24 0x00)
        (packed4 message (ahead 0x15 cursor) (ahead 0x16 cursor))
        maxSqrtPriceLimitX96
        (weth <<< (0x58 : ℕ))
        (load message.frame (ahead 0x20 cursor))
      ∧ made = events ++ [
          .call ((load message.frame (ahead 0x01 cursor) >>> 0x60).setWidth 160) 0
            (slice arguments 0 0xf9)]
      ∧ (sandwich world message).block (v3Input1Multi ++ behind)
          ⟨[BitVec.ofNat 256 cursor], memory, events⟩
        = .branch ((byteOf (load message.frame (ahead 0x40 cursor)) 0).setWidth 256)
            (boolWord (packed5 message (ahead 0x1a cursor) (ahead 0x1b cursor)
                < 1 - wordAt (copy arguments 0x00 0x40 (world.reply made).output) 0x00)
              &&& boolWord (world.reply made).success)
            ([.chainid, .dup 1, .revert] ++ behind)
            ⟨[0x40 + BitVec.ofNat 256 cursor], last, made⟩ :=
    ⟨_, _, _, rfl, rfl, rfl⟩
  have reads : slice arguments 0 0xf9 = (v3Input1MultiSwap message cursor).input message.address := by
    rw [shape, ahead_eq 0x15 0x15 rfl (by omega), ahead_eq 0x16 0x16 rfl (by omega),
      ahead_eq 0x20 0x20 rfl (by omega), packed4_eq]
    exact slice_poolSwapArguments (v3Input1MultiSwap message cursor) message.address rfl
  have same : made = calls := by
    rw [written, listed, reads, ahead_eq 0x01 0x01 rfl (by omega), load_address,
      setWidth_setWidth_address]
    rfl
  rw [ahead_eq 0x1a 0x1a rfl (by omega), ahead_eq 0x1b 0x1b rfl (by omega),
    ahead_eq 0x40 0x40 rfl room, step_cursor 0x40 0x40 rfl, packed5_eq] at run
  subst same
  exact guarded_attempts (v3Input1MultiSwap message cursor) (v3Input1MultiGuard message cursor) reads run
    (load_byte message (cursor + 0x40) (cursor + 0x40) (by norm_num) rfl) ⟨_, rfl⟩

/-- A backrun segment for WETH as token 0 fixes its input. -/
def v3Output0MultiSwap (message : Message) (cursor : ℕ) : V3Swap where
  pool := addressAt message.data (cursor + 0x01)
  zeroForOne := false
  amountSpecified := packedWord message.data (cursor + 0x1a) (cursor + 0x1b) 5
  token := addressAt message.data (cursor + 0x20)
  poolKeyHash := wordAt message.data (cursor + 0x34)

/-- It goes on when the pool gave at least the minimum. -/
def v3Output0MultiGuard (message : Message) (cursor : ℕ) (word : Word) : Bool :=
  packedWord message.data (cursor + 0x15) (cursor + 0x16) 4 < 1 - word

theorem v3Output0Multi_attempts (room : cursor + 0x54 < 2 ^ 256)
    (listed : calls = events ++ [(v3Output0MultiSwap message cursor).call message.address]) :
    (sandwich world message).Attempts (v3Output0Multi ++ behind)
      ⟨[BitVec.ofNat 256 cursor], memory, events⟩
      ((world.reply calls).success = true ∧ v3Output0MultiGuard message cursor
        ((v3Output0MultiSwap message cursor).returned message.address
          (world.reply calls).output) = true)
      (message.data (cursor + 0x54)).toNat [BitVec.ofNat 256 (cursor + 0x54)] calls := by
  obtain ⟨arguments, made, last, shape, written, run⟩ : ∃ arguments made last,
      arguments = poolSwapTail
        ((poolSwapHead memory (message.address.setWidth 256)).mstore 0x24 0x00)
        (packed5 message (ahead 0x1a cursor) (ahead 0x1b cursor))
        maxSqrtPriceLimitX96
        ((load message.frame (ahead 0x20 cursor) >>> 0x60) <<< (0x58 : ℕ))
        (load message.frame (ahead 0x34 cursor))
      ∧ made = events ++ [
          .call ((load message.frame (ahead 0x01 cursor) >>> 0x60).setWidth 160) 0
            (slice arguments 0 0xf9)]
      ∧ (sandwich world message).block (v3Output0Multi ++ behind)
          ⟨[BitVec.ofNat 256 cursor], memory, events⟩
        = .branch ((byteOf (load message.frame (ahead 0x54 cursor)) 0).setWidth 256)
            (boolWord (packed4 message (ahead 0x15 cursor) (ahead 0x16 cursor)
                < 1 - wordAt (copy arguments 0x00 0x40 (world.reply made).output) 0x00)
              &&& boolWord (world.reply made).success)
            ([.chainid, .dup 1, .revert] ++ behind)
            ⟨[0x54 + BitVec.ofNat 256 cursor], last, made⟩ :=
    ⟨_, _, _, rfl, rfl, rfl⟩
  have reads : slice arguments 0 0xf9 = (v3Output0MultiSwap message cursor).input message.address := by
    rw [shape, ahead_eq 0x1a 0x1a rfl (by omega), ahead_eq 0x1b 0x1b rfl (by omega),
      ahead_eq 0x20 0x20 rfl (by omega), ahead_eq 0x34 0x34 rfl (by omega), packed5_eq,
      load_address]
    exact slice_poolSwapArguments (v3Output0MultiSwap message cursor) message.address rfl
  have same : made = calls := by
    rw [written, listed, reads, ahead_eq 0x01 0x01 rfl (by omega), load_address,
      setWidth_setWidth_address]
    rfl
  rw [ahead_eq 0x15 0x15 rfl (by omega), ahead_eq 0x16 0x16 rfl (by omega),
    ahead_eq 0x54 0x54 rfl room, step_cursor 0x54 0x54 rfl, packed4_eq] at run
  subst same
  exact guarded_attempts (v3Output0MultiSwap message cursor) (v3Output0MultiGuard message cursor) reads run
    (load_byte message (cursor + 0x54) (cursor + 0x54) (by norm_num) rfl) ⟨_, rfl⟩

/-- A backrun segment for WETH as token 1 fixes its output. -/
def v3Output1MultiSwap (message : Message) (cursor : ℕ) : V3Swap where
  pool := addressAt message.data (cursor + 0x01)
  zeroForOne := true
  amountSpecified := 0 - packedWord message.data (cursor + 0x15) (cursor + 0x16) 4
  token := addressAt message.data (cursor + 0x20)
  poolKeyHash := wordAt message.data (cursor + 0x34)

/-- It goes on when the pool took less than the maximum. -/
def v3Output1MultiGuard (message : Message) (cursor : ℕ) (word : Word) : Bool :=
  word < packedWord message.data (cursor + 0x1a) (cursor + 0x1b) 5

theorem v3Output1Multi_attempts (room : cursor + 0x54 < 2 ^ 256)
    (listed : calls = events ++ [(v3Output1MultiSwap message cursor).call message.address]) :
    (sandwich world message).Attempts (v3Output1Multi ++ behind)
      ⟨[BitVec.ofNat 256 cursor], memory, events⟩
      ((world.reply calls).success = true ∧ v3Output1MultiGuard message cursor
        ((v3Output1MultiSwap message cursor).returned message.address
          (world.reply calls).output) = true)
      (message.data (cursor + 0x54)).toNat [BitVec.ofNat 256 (cursor + 0x54)] calls := by
  obtain ⟨arguments, made, last, shape, written, run⟩ : ∃ arguments made last,
      arguments = poolSwapTail
        ((poolSwapHead memory (message.address.setWidth 256)).mstore 0x24 0x01)
        (0 - (packed4 message (ahead 0x15 cursor) (ahead 0x16 cursor)))
        minSqrtPriceLimitX96
        ((load message.frame (ahead 0x20 cursor) >>> 0x60) <<< (0x58 : ℕ)
          + 0x0100000000000000000000000000000000000000000000000000000000000000)
        (load message.frame (ahead 0x34 cursor))
      ∧ made = events ++ [
          .call ((load message.frame (ahead 0x01 cursor) >>> 0x60).setWidth 160) 0
            (slice arguments 0 0xf9)]
      ∧ (sandwich world message).block (v3Output1Multi ++ behind)
          ⟨[BitVec.ofNat 256 cursor], memory, events⟩
        = .branch ((byteOf (load message.frame (ahead 0x54 cursor)) 0).setWidth 256)
            (boolWord (wordAt (copy arguments 0x00 0x40 (world.reply made).output) 0x00
                < packed5 message (ahead 0x1a cursor) (ahead 0x1b cursor))
              &&& boolWord (world.reply made).success)
            ([.chainid, .dup 1, .revert] ++ behind)
            ⟨[0x54 + BitVec.ofNat 256 cursor], last, made⟩ :=
    ⟨_, _, _, rfl, rfl, rfl⟩
  have reads : slice arguments 0 0xf9 = (v3Output1MultiSwap message cursor).input message.address := by
    rw [shape, ahead_eq 0x15 0x15 rfl (by omega), ahead_eq 0x16 0x16 rfl (by omega),
      ahead_eq 0x20 0x20 rfl (by omega), ahead_eq 0x34 0x34 rfl (by omega), packed4_eq,
      load_address]
    exact slice_poolSwapArguments (v3Output1MultiSwap message cursor) message.address rfl
  have same : made = calls := by
    rw [written, listed, reads, ahead_eq 0x01 0x01 rfl (by omega), load_address,
      setWidth_setWidth_address]
    rfl
  rw [ahead_eq 0x1a 0x1a rfl (by omega), ahead_eq 0x1b 0x1b rfl (by omega),
    ahead_eq 0x54 0x54 rfl room, step_cursor 0x54 0x54 rfl, packed5_eq] at run
  subst same
  exact guarded_attempts (v3Output1MultiSwap message cursor) (v3Output1MultiGuard message cursor) reads run
    (load_byte message (cursor + 0x54) (cursor + 0x54) (by norm_num) rfl) ⟨_, rfl⟩

end Multi

end Sando.Huff
