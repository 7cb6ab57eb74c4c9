/-
The V2 handlers.

Each theorem runs one handler from its label to the jump that ends it and names the calls it makes.
The single handlers run on a fresh machine. The first segment of a chain also does, and leaves the
cursor on the stack; a later segment finds the cursor there and any memory at all.
-/

import Sando.Huff.Arguments
import Sando.Huff.Layout

namespace Sando.Huff

open Sando.Evm Sando.Evm.Context Memory

/-! ### Single swaps -/

section Single

variable {world : World} {message : Message} {behind : Code Label} {shift value : ℕ}
  {isWethToken0 : Bool} {calls : List Event}

/-- A handler that ends in a jump to the exit. -/
theorem exit_attempts {code : Code Label} {machine : Machine} {condition : Word} {last : Memory}
    {events : List Event} {passed : Prop} (decides : condition ≠ 0 ↔ passed)
    (run : (sandwich world message).block code machine
      = .branch ((sandwich world message).labelWord .exit) condition
          ([.push 0x00, .dup 1, .revert] ++ behind) ⟨[], last, events⟩) :
    (sandwich world message).Attempts code machine passed 0x2e [] events :=
  ⟨_, condition, _, last, [], run, labelWord_exit, decides, rfl⟩

/-- The frontrun, on fresh memory. -/
theorem v2InputSingle_attempts (field : window message.data 0x17 32 = value * 256 ^ 28)
    (place : (message.data 2).toNat + shift = otherOffset isWethToken0) (small : shift ≤ 28)
    (listed : calls = v2Frontrun message.address (addressAt message.data 3) isWethToken0
      (message.callvalue.toNat % 2 ^ 224 * 2 ^ 32) (value * 256 ^ shift)) :
    (sandwich world message).Attempts (v2InputSingle ++ behind) Machine.initial
      ((world.reply calls).success = true) 0x2e [] calls := by
  obtain ⟨events, last, run, made⟩ : ∃ events last,
      (sandwich world message).block (v2InputSingle ++ behind) Machine.initial
        = .branch ((sandwich world message).labelWord .exit) (boolWord (world.reply events).success)
            ([.push 0x00, .dup 1, .revert] ++ behind) ⟨[], last, events⟩
      ∧ events = [
          .call wethAddress 0 (slice (transferFromArguments zero (message.address.setWidth 256)
            (load message.frame 0x03 >>> 0x60) message.callvalue) 0 0x64),
          .call ((load message.frame 0x03 >>> 0x60).setWidth 160) 0 (slice
            (swapArguments (transferFromArguments zero (message.address.setWidth 256)
                (load message.frame 0x03 >>> 0x60) message.callvalue)
              ((byteOf (load message.frame 1) 1).setWidth 256).toNat (load message.frame 0x17)
              (message.address.setWidth 256)) 0 0xa4)] := ⟨_, _, rfl, rfl⟩
  have same : events = calls := by
    rw [made, listed, load_address, setWidth_setWidth_address, load_byte message 1 2 (by norm_num) rfl,
      slice_transferFromArguments window_zero,
      slice_swapArguments ?_ ((toNat_load _ _).trans field) place small]
    · rfl
    · simp (disch := omega) only [transferFromArguments, window_mstore_outside, window_zero]
  subst same
  exact exit_attempts boolWord_ne_zero run

/-- The backrun for WETH as token 0, on fresh memory. -/
theorem v2Output0Single_attempts (field : window message.data 0x2b 32 = value * 256 ^ 28)
    (place : (message.data 2).toNat + shift = 0x40) (small : shift ≤ 28)
    (fits : message.callvalue.toNat < 2 ^ 224)
    (listed : calls = v2Backrun message.address (addressAt message.data 3)
      (addressAt message.data 0x17) true (value * 256 ^ shift) (message.callvalue.toNat * 2 ^ 32)) :
    (sandwich world message).Attempts (v2Output0Single ++ behind) Machine.initial
      ((world.reply calls).success = true) 0x2e [] calls := by
  obtain ⟨events, last, run, made⟩ : ∃ events last,
      (sandwich world message).block (v2Output0Single ++ behind) Machine.initial
        = .branch ((sandwich world message).labelWord .exit) (boolWord (world.reply events).success)
            ([.push 0x00, .dup 1, .revert] ++ behind) ⟨[], last, events⟩
      ∧ events = [
          .call ((load message.frame 0x17 >>> 0x60).setWidth 160) 0 (slice
            (transferArguments zero (load message.frame 0x03 >>> 0x60)
              ((byteOf (load message.frame 1) 1).setWidth 256).toNat (load message.frame 0x2b)) 0
            0x44),
          .call ((load message.frame 0x03 >>> 0x60).setWidth 160) 0 (slice
            (swap0Arguments (transferArguments zero (load message.frame 0x03 >>> 0x60)
                ((byteOf (load message.frame 1) 1).setWidth 256).toNat (load message.frame 0x2b))
              message.callvalue (message.address.setWidth 256)) 0 0xa4)] := ⟨_, _, rfl, rfl⟩
  have same : events = calls := by
    rw [made, listed, load_address, load_address, setWidth_setWidth_address,
      setWidth_setWidth_address, load_byte message 1 2 (by norm_num) rfl,
      slice_transferArguments window_zero ((toNat_load _ _).trans field) place small,
      slice_swap0Arguments ?_ fits]
    · rfl
    · simp (disch := omega) only [transferArguments, window_mstore_outside, window_zero]
  subst same
  exact exit_attempts boolWord_ne_zero run

/-- The backrun for WETH as token 1, on fresh memory: the low four bytes of the amount paid end up
in the amount taken. -/
theorem v2Output1Single_attempts (field : window message.data 0x2b 32 = value * 256 ^ 28)
    (place : (message.data 2).toNat + shift = 0x40) (small : shift ≤ 28)
    (fits : message.callvalue.toNat < 2 ^ 224)
    (listed : calls = v2Backrun message.address (addressAt message.data 3)
      (addressAt message.data 0x17) false (value * 256 ^ shift)
      (message.callvalue.toNat * 2 ^ 32 + value * 256 ^ shift % 2 ^ 32)) :
    (sandwich world message).Attempts (v2Output1Single ++ behind) Machine.initial
      ((world.reply calls).success = true) 0x2e [] calls := by
  obtain ⟨events, last, run, made⟩ : ∃ events last,
      (sandwich world message).block (v2Output1Single ++ behind) Machine.initial
        = .branch ((sandwich world message).labelWord .exit) (boolWord (world.reply events).success)
            ([.push 0x00, .dup 1, .revert] ++ behind) ⟨[], last, events⟩
      ∧ events = [
          .call ((load message.frame 0x17 >>> 0x60).setWidth 160) 0 (slice
            (transferArguments zero (load message.frame 0x03 >>> 0x60)
              ((byteOf (load message.frame 1) 1).setWidth 256).toNat (load message.frame 0x2b)) 0
            0x44),
          .call ((load message.frame 0x03 >>> 0x60).setWidth 160) 0 (slice
            (swap1Arguments (transferArguments zero (load message.frame 0x03 >>> 0x60)
                ((byteOf (load message.frame 1) 1).setWidth 256).toNat (load message.frame 0x2b))
              message.callvalue (message.address.setWidth 256)) 0 0xa4)] := ⟨_, _, rfl, rfl⟩
  have same : events = calls := by
    rw [made, listed, load_address, load_address, setWidth_setWidth_address,
      setWidth_setWidth_address, load_byte message 1 2 (by norm_num) rfl,
      slice_transferArguments window_zero ((toNat_load _ _).trans field) place small,
      slice_swap1Arguments ?_ fits, window_transferArguments_low ((toNat_load _ _).trans field) place small]
    · rfl
    · simp (disch := omega) only [transferArguments, window_mstore_outside, window_zero]
  subst same
  exact exit_attempts boolWord_ne_zero run

end Single

/-! ### Segments of a chain -/

section Multi

variable {world : World} {message : Message} {behind : Code Label} {shift paidShift : ℕ}
  {isWethToken0 : Bool} {calls events : List Event} {memory : Memory} {cursor : ℕ}

/-- A frontrun as the first segment, on fresh memory. -/
theorem v2InputMultiFirst_attempts
    (place : (message.data 2).toNat + shift = otherOffset isWethToken0) (small : shift ≤ 28)
    (listed : calls = v2Frontrun message.address (addressAt message.data 3) isWethToken0
      (message.callvalue.toNat % 2 ^ 224 * 2 ^ 32) (window message.data 0x17 4 * 256 ^ shift)) :
    (sandwich world message).Attempts (v2InputMultiFirst ++ behind) Machine.initial
      ((world.reply calls).success = true) (message.data 0x1b).toNat [BitVec.ofNat 256 0x1b]
      calls := by
  obtain ⟨made, last, run, written⟩ : ∃ made last,
      (sandwich world message).block (v2InputMultiFirst ++ behind) Machine.initial
        = .branch ((byteOf (load message.frame 0x1a) 1).setWidth 256)
            (boolWord (world.reply made).success) ([.push 0x00, .dup 1, .revert] ++ behind)
            ⟨[0x1b], last, made⟩
      ∧ made = [
          .call wethAddress 0 (slice (transferFromArguments zero (message.address.setWidth 256)
            (load message.frame 0x03 >>> 0x60) message.callvalue) 0 0x64),
          .call ((load message.frame 0x03 >>> 0x60).setWidth 160) 0 (slice
            (swapArguments (transferFromArguments zero (message.address.setWidth 256)
                (load message.frame 0x03 >>> 0x60) message.callvalue)
              ((byteOf (load message.frame 1) 1).setWidth 256).toNat
              (0xffffffff00000000000000000000000000000000000000000000000000000000
                &&& load message.frame 0x17)
              (message.address.setWidth 256)) 0 0xa4)] := ⟨_, _, rfl, rfl⟩
  have same : made = calls := by
    rw [written, listed, load_address, setWidth_setWidth_address,
      load_byte message 1 2 (by norm_num) rfl, slice_transferFromArguments window_zero,
      slice_swapArguments ?_ (toNat_load_mask4 _ _) place small]
    · rfl
    · simp (disch := omega) only [transferFromArguments, window_mstore_outside, window_zero]
  subst same
  exact ⟨_, _, _, _, _, run, load_byte message 0x1a 0x1b (by norm_num) rfl, boolWord_ne_zero, rfl⟩

/-- A frontrun as a later segment. -/
theorem v2InputMultiNext_attempts (room : cursor + 0x1f < 2 ^ 256)
    (place : (message.data (cursor + 1)).toNat + shift = otherOffset isWethToken0)
    (small : shift ≤ 28)
    (listed : calls = events ++ v2Frontrun message.address (addressAt message.data (cursor + 2))
      isWethToken0 (window message.data (cursor + 0x1a) 5 * 2 ^ 32)
      (window message.data (cursor + 0x16) 4 * 256 ^ shift)) :
    (sandwich world message).Attempts (v2InputMultiNext ++ behind)
      ⟨[BitVec.ofNat 256 cursor], memory, events⟩ ((world.reply calls).success = true)
      (message.data (cursor + 0x1f)).toNat [BitVec.ofNat 256 (cursor + 0x1f)] calls := by
  obtain ⟨made, last, run, written⟩ : ∃ made last,
      (sandwich world message).block (v2InputMultiNext ++ behind)
          ⟨[BitVec.ofNat 256 cursor], memory, events⟩
        = .branch ((byteOf (load message.frame (ahead 0x1f cursor)) 0).setWidth 256)
            (boolWord (world.reply made).success) ([.chainid, .dup 1, .revert] ++ behind)
            ⟨[0x1f + BitVec.ofNat 256 cursor], last, made⟩
      ∧ made = events ++ [
          .call wethAddress 0 (slice (transferFromNextArguments memory
            (message.address.setWidth 256)
            (load message.frame (ahead 0x02 cursor) >>> 0x60)
            (load message.frame (ahead 0x1a cursor) >>> 0xd8)) 0 0x64)] ++ [
          .call ((load message.frame (ahead 0x02 cursor) >>> 0x60).setWidth 160)
            0 (slice (swapNextArguments (transferFromNextArguments memory
                (message.address.setWidth 256)
                (load message.frame (ahead 0x02 cursor) >>> 0x60)
                (load message.frame (ahead 0x1a cursor) >>> 0xd8))
              ((byteOf (load message.frame (BitVec.ofNat 256 cursor).toNat) 1).setWidth 256).toNat
              (0xffffffff00000000000000000000000000000000000000000000000000000000
                &&& load message.frame (ahead 0x16 cursor))
              (message.address.setWidth 256)) 0 0xa4)] := ⟨_, _, rfl, rfl⟩
  rw [ahead_eq 0x1f 0x1f rfl room, step_cursor 0x1f 0x1f rfl] at run
  have paid : window message.data (cursor + 0x1a) 5 < 2 ^ 224 :=
    lt_trans (window_lt _ _ _) (by norm_num)
  have same : made = calls := by
    rw [written, listed, toNat_ofNat_of_lt (by omega), ahead_eq 0x02 0x02 rfl (by omega),
      ahead_eq 0x16 0x16 rfl (by omega), ahead_eq 0x1a 0x1a rfl (by omega),
      load_address,
      setWidth_setWidth_address, load_byte message cursor (cursor + 1) (by norm_num) rfl,
      slice_transferFromNextArguments,
      slice_swapNextArguments (toNat_load_mask4 _ _) place small, toNat_load_shift5,
      Nat.mod_eq_of_lt paid, List.append_assoc]
    rfl
  subst same
  exact ⟨_, _, _, _, _, run,
    load_byte message (cursor + 0x1f) (cursor + 0x1f) (by norm_num) rfl, boolWord_ne_zero, rfl⟩

/-- A backrun as the first segment, on fresh memory. -/
theorem v2OutputMultiFirst_attempts (paidPlace : (message.data 2).toNat + paidShift = 0x40)
    (paidSmall : paidShift ≤ 28)
    (place : (message.data 0x2f).toNat + shift = wethOffset isWethToken0) (small : shift < 32)
    (fits : message.callvalue.toNat * 256 ^ shift < 2 ^ 256)
    (listed : calls = v2Backrun message.address (addressAt message.data 3)
      (addressAt message.data 0x17) isWethToken0 (window message.data 0x2b 4 * 256 ^ paidShift)
      (message.callvalue.toNat * 256 ^ shift)) :
    (sandwich world message).Attempts (v2OutputMultiFirst ++ behind) Machine.initial
      ((world.reply calls).success = true) (message.data 0x30).toNat [BitVec.ofNat 256 0x30]
      calls := by
  obtain ⟨made, last, run, written⟩ : ∃ made last,
      (sandwich world message).block (v2OutputMultiFirst ++ behind) Machine.initial
        = .branch ((byteOf (load message.frame 0x2f) 1).setWidth 256)
            (boolWord (world.reply made).success) ([.push 0x00, .dup 1, .revert] ++ behind)
            ⟨[0x30], last, made⟩
      ∧ made = [
          .call ((load message.frame 0x17 >>> 0x60).setWidth 160) 0 (slice
            (transferArguments zero (load message.frame 0x03 >>> 0x60)
              ((byteOf (load message.frame 1) 1).setWidth 256).toNat
              (0xffffffff00000000000000000000000000000000000000000000000000000000
                &&& load message.frame 0x2b)) 0 0x44),
          .call ((load message.frame 0x03 >>> 0x60).setWidth 160) 0 (slice
            (swapFirstArguments (transferArguments zero (load message.frame 0x03 >>> 0x60)
                ((byteOf (load message.frame 1) 1).setWidth 256).toNat
                (0xffffffff00000000000000000000000000000000000000000000000000000000
                  &&& load message.frame 0x2b))
              ((byteOf (load message.frame 0x2e) 1).setWidth 256).toNat message.callvalue
              (message.address.setWidth 256)) 0x40 0xa4)] := ⟨_, _, rfl, rfl⟩
  have same : made = calls := by
    rw [written, listed, load_address, load_address, setWidth_setWidth_address,
      setWidth_setWidth_address, load_byte message 1 2 (by norm_num) rfl,
      load_byte message 0x2e 0x2f (by norm_num) rfl,
      slice_transferArguments window_zero (toNat_load_mask4 _ _) paidPlace paidSmall,
      slice_swapFirstArguments ?_ ?_ ?_ place small fits]
    · rfl
    · exact window_transferArguments_behind (toNat_load_mask4 _ _) paidPlace paidSmall
    · simp (disch := omega) only [transferArguments, window_mstore_outside, window_zero]
    · simp (disch := omega) only [transferArguments, window_mstore_outside, window_zero]
  subst same
  exact ⟨_, _, _, _, _, run, load_byte message 0x2f 0x30 (by norm_num) rfl, boolWord_ne_zero, rfl⟩

/-- A backrun as a later segment. -/
theorem v2OutputMultiNext_attempts (room : cursor + 0x34 < 2 ^ 256)
    (paidPlace : (message.data (cursor + 1)).toNat + paidShift = 0x40) (paidSmall : paidShift ≤ 28)
    (place : (message.data (cursor + 0x33)).toNat + shift = wethOffset isWethToken0)
    (small : shift < 32) (fits : window message.data (cursor + 0x2e) 5 * 256 ^ shift < 2 ^ 256)
    (listed : calls = events ++ v2Backrun message.address (addressAt message.data (cursor + 2))
      (addressAt message.data (cursor + 0x16)) isWethToken0
      (window message.data (cursor + 0x2a) 4 * 256 ^ paidShift)
      (window message.data (cursor + 0x2e) 5 * 256 ^ shift)) :
    (sandwich world message).Attempts (v2OutputMultiNext ++ behind)
      ⟨[BitVec.ofNat 256 cursor], memory, events⟩ ((world.reply calls).success = true)
      (message.data (cursor + 0x34)).toNat [BitVec.ofNat 256 (cursor + 0x34)] calls := by
  obtain ⟨made, last, run, written⟩ : ∃ made last,
      (sandwich world message).block (v2OutputMultiNext ++ behind)
          ⟨[BitVec.ofNat 256 cursor], memory, events⟩
        = .branch ((byteOf (load message.frame (ahead 0x34 cursor)) 0).setWidth 256)
            (boolWord (world.reply made).success) ([.chainid, .dup 1, .revert] ++ behind)
            ⟨[0x34 + BitVec.ofNat 256 cursor], last, made⟩
      ∧ made = events ++ [
          .call ((load message.frame (ahead 0x16 cursor) >>> 0x60).setWidth 160)
            0 (slice (transferNextArguments memory
              (load message.frame (ahead 0x02 cursor) >>> 0x60)
              ((byteOf (load message.frame (BitVec.ofNat 256 cursor).toNat) 1).setWidth 256).toNat
              (0xffffffff00000000000000000000000000000000000000000000000000000000
                &&& load message.frame (ahead 0x2a cursor))) 0 0x44)] ++ [
          .call ((load message.frame (ahead 0x02 cursor) >>> 0x60).setWidth 160)
            0 (slice (swapNextOutArguments (transferNextArguments memory
                (load message.frame (ahead 0x02 cursor) >>> 0x60)
                ((byteOf (load message.frame (BitVec.ofNat 256 cursor).toNat) 1).setWidth 256).toNat
                (0xffffffff00000000000000000000000000000000000000000000000000000000
                  &&& load message.frame (ahead 0x2a cursor)))
              ((byteOf (load message.frame (ahead 0x32 cursor))
                1).setWidth 256).toNat
              (0x000000000000000000000000000000000000000000000000000000ffffffffff
                &&& load message.frame (ahead 0x13 cursor))
              (message.address.setWidth 256)) 0x40 0xa4)] := ⟨_, _, rfl, rfl⟩
  rw [ahead_eq 0x34 0x34 rfl room, step_cursor 0x34 0x34 rfl] at run
  have amount : (0x000000000000000000000000000000000000000000000000000000ffffffffff
      &&& load message.frame (cursor + 0x13)).toNat = window message.data (cursor + 0x2e) 5 :=
    toNat_load_lowMask5 message (cursor + 0x13)
  have same : made = calls := by
    rw [written, listed, toNat_ofNat_of_lt (by omega), ahead_eq 0x02 0x02 rfl (by omega),
      ahead_eq 0x13 0x13 rfl (by omega), ahead_eq 0x16 0x16 rfl (by omega),
      ahead_eq 0x2a 0x2a rfl (by omega), ahead_eq 0x32 0x32 rfl (by omega),
      load_address, load_address, setWidth_setWidth_address, setWidth_setWidth_address,
      load_byte message cursor (cursor + 1) (by norm_num) rfl,
      load_byte message (cursor + 0x32) (cursor + 0x33) (by norm_num) rfl,
      slice_transferNextArguments (toNat_load_mask4 _ _) paidPlace paidSmall,
      slice_swapNextOutArguments place small (amount ▸ fits), amount, List.append_assoc]
    rfl
  subst same
  exact ⟨_, _, _, _, _, run,
    load_byte message (cursor + 0x34) (cursor + 0x34) (by norm_num) rfl, boolWord_ne_zero, rfl⟩

end Multi

end Sando.Huff
