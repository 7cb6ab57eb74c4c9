/-
Arbitrage paths.

A path is one payment to the first pool and then a swap on each pool in turn, where a pool pays the
next one and the last one pays the contract. `ArbitragePath.calls` are these calls and
`performCalls` makes them in order, up to the first swap that fails. `path_executes` proves that
the contract does just that: `hop_runs` is one hop at any cursor, on any memory and behind any calls,
and `hops_end` follows by induction on the hops. A hop finds its recipient in the next segment.

A packed amount is stored at an offset of calldata. `window_hopArguments` reads both outputs at once:
they are the 64 bytes behind the selector, and the amount lands in them multiplied by a power of 256.
An offset below 4 would touch the selector, which `Hop.Clear` excludes.
-/

import Sando.Huff.Chain

namespace Sando.Huff

open Sando.Evm Sando.Evm.Context Memory

/-! ### Arguments -/

section Arguments

variable {memory : Memory} {owner recipient : Address} {amount : Word} {offset value : ℕ}

/-- A window inside a clear one is clear. -/
theorem window_inside_clear {bytes : ℕ → Byte} {start total count : ℕ}
    (clear : window bytes start total = 0) (lower : start ≤ offset)
    (upper : offset + count ≤ start + total) : window bytes offset count = 0 := by
  obtain ⟨skipped, rfl⟩ : ∃ skipped, offset = start + skipped := ⟨offset - start, by omega⟩
  rw [window_inner bytes start skipped count (total - skipped - count),
    show skipped + count + (total - skipped - count) = total by omega, clear, Nat.zero_div,
    Nat.zero_mod]

/-- `transferFrom` for a 5-byte amount of WETH. -/
def fundArguments (memory : Memory) (owner recipient amount : Word) : Memory :=
  ((((memory.mstore 0x00 transferFromSig).mstore 0x04 owner).mstore 0x24 recipient).mstore 0x44
    0x00).mstore 0x5b amount

theorem slice_fundArguments (field : amount.toNat = value * 256 ^ 27) :
    slice (fundArguments memory (owner.setWidth 256) (recipient.setWidth 256) amount) 0 0x64
      = encodeCall 0x23b872dd [owner.toNat, recipient.toNat, value * 2 ^ 32] := by
  refine slice_eq_encodeCall rfl ?_ ?_
  · simp (disch := omega) only [fundArguments, window_mstore_outside, window_mstore_inside]
    decide
  · simp (disch := omega) only [fundArguments, List.length_cons, List.length_nil, wordsAt,
      Nat.reduceAdd, Nat.reduceSub, window_mstore_outside, window_mstore_inside, window_mstore_tail,
      toNat_setWidth_address, Nat.pow_zero, Nat.div_one, address_mod, field]
    have moved : value * 256 ^ 27 / 256 ^ 23 = value * 2 ^ 32 := by omega
    rw [moved]
    simp

/-- The memory of a hop before its amount is stored: selector and clear outputs. -/
def hopHead (memory : Memory) : Memory :=
  ((memory.mstore 0x04 0x00).mstore 0x24 0x00).mstore 0x00 v2SwapSig32

/-- `swap` for a packed amount at an offset. -/
def hopArguments (memory : Memory) (offset : ℕ) (amount recipient : Word) : Memory :=
  ((((hopHead memory).mstore offset amount).mstore 0x44 recipient).mstore 0x64 0x80).mstore 0x84 0x00

/-- Both outputs are clear. -/
theorem window_hopHead : window (hopHead memory) 0x04 0x40 = 0 := by
  rw [show 0x40 = 0x1c + 0x04 + 0x20 by rfl, window_add, window_add]
  simp (disch := omega) only [hopHead, window_mstore_outside, window_mstore_inside]
  decide

/-- Both outputs, as one number: the offset decides which power of 256 the amount is multiplied by. -/
theorem window_hopArguments {recipient : Word} (field : amount.toNat = value * 256 ^ 28)
    (lower : 0x04 ≤ offset) (upper : offset ≤ 0x40) :
    window (hopArguments memory offset amount recipient) 0x04 0x40
      = value * 256 ^ (0x40 - offset) := by
  have clear : window (hopHead memory) 0x04 0x40 = 0 := window_hopHead
  have stored : window (hopArguments memory offset amount recipient) 0x04 0x40
      = window ((hopHead memory).mstore offset amount) 0x04 0x40 := by
    simp (disch := omega) only [hopArguments, window_mstore_outside]
  have before : window (hopHead memory) 0x04 (offset - 0x04) = 0 :=
    window_inside_clear clear le_rfl (by omega)
  rw [stored]
  by_cases inside : offset + 0x20 ≤ 0x44
  · -- the word ends inside the outputs
    obtain ⟨rest, whole⟩ : ∃ rest, 0x40 = offset + 0x1c + rest := ⟨0x40 - (offset + 0x1c), by omega⟩
    have behind : window ((hopHead memory).mstore offset amount) (0x04 + (offset + 0x1c)) rest
        = 0 := by
      rw [window_mstore_outside (Or.inr (by omega))]
      exact window_inside_clear clear (by omega) (by omega)
    have power : 0x40 - offset = 28 + rest := by omega
    rw [power, whole, window_add, behind, window_mstore_tail lower (by omega) (by omega), before,
      show offset + 32 - (0x04 + (offset + 0x1c)) = 0 by omega, field, pow_zero, Nat.div_one,
      pow_add]
    ring
  · -- the word runs into the recipient
    obtain ⟨cut, beyond⟩ : ∃ cut, offset + 32 = 0x04 + 0x40 + cut := ⟨offset - 0x24, by omega⟩
    have power : 0x40 - offset = 28 - cut := by omega
    rw [window_mstore_tail lower (by omega) (by omega), before, field, beyond,
      Nat.add_sub_cancel_left, Nat.mul_div_assoc _ (pow_dvd_pow 256 (by omega)),
      Nat.pow_div (by omega) (by norm_num), power, Nat.zero_mul, Nat.zero_add]

end Arguments

/-! ### Hops -/

/-- A swap on one pool of a path. Its amount is packed in four bytes, and the memory offset multiplies
it by `256 ^ shift` in one of the two outputs. -/
structure Hop where
  pool : Address
  takesToken0 : Bool
  value : ℕ
  shift : ℕ
  value_lt : value < 256 ^ 4
  shift_le : shift ≤ otherOffset (!takesToken0)
  fits : value * 256 ^ shift < 2 ^ 256

namespace Hop

/-- The memory offset. -/
def offset (hop : Hop) : ℕ := otherOffset (!hop.takesToken0) - hop.shift

/-- The memory offset lies behind the selector. -/
def Clear (hop : Hop) : Prop := 0x04 ≤ hop.offset

/-- The amount. -/
def amount (hop : Hop) : ℕ := hop.value * 256 ^ hop.shift

/-- Its swap. -/
def swap (hop : Hop) (recipient : Address) : Event :=
  if hop.takesToken0 then pairSwap hop.pool hop.amount 0 recipient
  else pairSwap hop.pool 0 hop.amount recipient

/-- What is behind its label. -/
def fields (hop : Hop) : List Byte :=
  bigEndian 1 hop.offset ++ (bigEndian 20 hop.pool.toNat ++ bigEndian 4 hop.value)

/-- Its bytes. -/
def encode (handler : Handler) (hop : Hop) : List Byte :=
  bigEndian 1 (0x30 + 5 * handler.index) ++ hop.fields

@[simp] theorem length_encode (handler : Handler) (hop : Hop) :
    (hop.encode handler).length = 0x1a := by
  simp [encode, fields]

theorem offset_le (hop : Hop) : hop.offset ≤ 0x40 := by
  refine le_trans (Nat.sub_le _ _) ?_
  cases hop.takesToken0 <;> decide

/-- The two outputs of a hop are the halves of one number. -/
theorem outputs_eq (hop : Hop) :
    hop.value * 256 ^ (0x40 - hop.offset) / 256 ^ 32 = (if hop.takesToken0 then hop.amount else 0)
    ∧ hop.value * 256 ^ (0x40 - hop.offset) % 256 ^ 32
      = (if hop.takesToken0 then 0 else hop.amount) := by
  obtain ⟨pool, takesToken0, value, shift, value_lt, shift_le, fits⟩ := hop
  cases takesToken0 with
  | true =>
    have power : 0x40 - (0x20 - shift) = shift + 32 := by
      have inside : shift ≤ 0x20 := shift_le
      omega
    have moved : value * 256 ^ (shift + 32) = value * 256 ^ shift * 256 ^ 32 := by
      rw [pow_add, Nat.mul_assoc]
    simp only [offset, otherOffset, Bool.not_true, amount, if_true, Bool.false_eq_true, if_false,
      power, moved]
    exact ⟨Nat.mul_div_cancel _ (by positivity), Nat.mul_mod_left _ _⟩
  | false =>
    have power : 0x40 - (0x40 - shift) = shift := by
      have inside : shift ≤ 0x40 := shift_le
      omega
    have small : value * 256 ^ shift < 256 ^ 32 := lt_of_lt_of_eq fits (by norm_num)
    simp only [offset, otherOffset, Bool.not_false, amount, if_true, Bool.false_eq_true, if_false,
      power]
    exact ⟨Nat.div_eq_of_lt small, Nat.mod_eq_of_lt small⟩

/-- The call of a hop. -/
theorem slice_hopArguments (hop : Hop) (clear : hop.Clear) {memory : Memory} {recipient : Address}
    {amount : Word} (field : amount.toNat = hop.value * 256 ^ 28) :
    Event.call hop.pool 0
        (slice (hopArguments memory hop.offset amount (recipient.setWidth 256)) 0 0xa4)
      = hop.swap recipient := by
  have upper := hop.offset_le
  have lower : 0x04 ≤ hop.offset := clear
  generalize memory_eq : hopArguments memory hop.offset amount (recipient.setWidth 256) = arguments
  have both : window arguments 0x04 0x40 = hop.value * 256 ^ (0x40 - hop.offset) := by
    rw [← memory_eq]
    exact window_hopArguments field lower upper
  have first : window arguments 0x04 0x20 = if hop.takesToken0 then hop.amount else 0 := by
    rw [window_high arguments 0x04 0x20 0x20, both]
    exact hop.outputs_eq.1
  have second : window arguments 0x24 0x20 = if hop.takesToken0 then 0 else hop.amount := by
    refine (window_low arguments 0x04 0x20 0x20).trans ?_
    rw [both]
    exact hop.outputs_eq.2
  have call : slice arguments 0 0xa4 = encodeCall 0x022c0d9f
      [if hop.takesToken0 then hop.amount else 0, if hop.takesToken0 then 0 else hop.amount,
        recipient.toNat, 0x80, 0] := by
    refine slice_eq_encodeCall rfl ?_ ?_
    · rw [← memory_eq]
      simp (disch := omega) only [hopArguments, hopHead, window_mstore_outside,
        window_mstore_inside]
      decide
    · simp only [List.length_cons, List.length_nil, wordsAt, Nat.reduceAdd, first, second]
      rw [← memory_eq]
      simp (disch := omega) only [hopArguments, window_mstore_outside, window_mstore_same,
        toNat_setWidth_address]
      rfl
  rw [call, swap, pairSwap, pairSwap]
  cases hop.takesToken0 <;> rfl

end Hop

/-! ### The handlers of a path -/

section Handlers

variable {world : World} {message : Message} {behind : Code Label} {events : List Event}
  {memory : Memory} {cursor : ℕ} {hop : Hop}

/-- A hop lies at a cursor. -/
structure Message.Holds (message : Message) (cursor : ℕ) (hop : Hop) : Prop where
  offset : (message.data (cursor + 0x01)).toNat = hop.offset
  pool : addressAt message.data (cursor + 0x02) = hop.pool
  value : window message.data (cursor + 0x16) 4 = hop.value

/-- A hop that pays the next pool. -/
theorem arbitrageV2SwapToOther_attempts (room : cursor + 0x1c < 2 ^ 256)
    (holds : message.Holds cursor hop) (clear : hop.Clear) {recipient : Address} {calls : List Event}
    (next : addressAt message.data (cursor + 0x1c) = recipient)
    (listed : calls = events ++ [hop.swap recipient]) :
    (sandwich world message).Attempts (arbitrageV2SwapToOther ++ behind)
      ⟨[BitVec.ofNat 256 cursor], memory, events⟩ ((world.reply calls).success = true)
      (message.data (cursor + 0x1a)).toNat [BitVec.ofNat 256 (cursor + 0x1a)] calls := by
  obtain ⟨made, last, run, written⟩ : ∃ made last,
      (sandwich world message).block (arbitrageV2SwapToOther ++ behind)
          ⟨[BitVec.ofNat 256 cursor], memory, events⟩
        = .branch ((byteOf (load message.frame (ahead 0x1a cursor)) 0).setWidth 256)
            (boolWord (world.reply made).success) ([.push 0x00, .dup 1, .revert] ++ behind)
            ⟨[0x1a + BitVec.ofNat 256 cursor], last, made⟩
      ∧ made = events ++ [
          .call ((load message.frame (ahead 0x02 cursor) >>> 0x60).setWidth 160) 0 (slice
            (hopArguments memory
              ((byteOf (load message.frame (BitVec.ofNat 256 cursor).toNat) 1).setWidth 256).toNat
              (0xffffffff00000000000000000000000000000000000000000000000000000000
                &&& load message.frame (ahead 0x16 cursor))
              (load message.frame (ahead 0x1c cursor) >>> 0x60)) 0 0xa4)] := ⟨_, _, rfl, rfl⟩
  rw [ahead_eq 0x1a 0x1a rfl (by omega), step_cursor 0x1a 0x1a rfl] at run
  have field := toNat_load_mask4 message (cursor + 0x16)
  rw [holds.value] at field
  have same : made = calls := by
    rw [written, listed, toNat_ofNat_of_lt (by omega), ahead_eq 0x02 0x02 rfl (by omega),
      ahead_eq 0x16 0x16 rfl (by omega), ahead_eq 0x1c 0x1c rfl room, load_address, load_address,
      setWidth_setWidth_address, load_byte message cursor (cursor + 0x01) (by norm_num) rfl,
      holds.offset, holds.pool, next, hop.slice_hopArguments clear field]
  subst same
  exact ⟨_, _, _, _, _, run,
    load_byte message (cursor + 0x1a) (cursor + 0x1a) (by norm_num) rfl, boolWord_ne_zero, rfl⟩

/-- A hop that pays the contract. -/
theorem arbitrageV2SwapToThis_attempts (room : cursor + 0x1a < 2 ^ 256)
    (holds : message.Holds cursor hop) (clear : hop.Clear) {calls : List Event}
    (listed : calls = events ++ [hop.swap message.address]) :
    (sandwich world message).Attempts (arbitrageV2SwapToThis ++ behind)
      ⟨[BitVec.ofNat 256 cursor], memory, events⟩ ((world.reply calls).success = true)
      (message.data (cursor + 0x1a)).toNat [BitVec.ofNat 256 (cursor + 0x1a)] calls := by
  obtain ⟨made, last, run, written⟩ : ∃ made last,
      (sandwich world message).block (arbitrageV2SwapToThis ++ behind)
          ⟨[BitVec.ofNat 256 cursor], memory, events⟩
        = .branch ((byteOf (load message.frame (ahead 0x1a cursor)) 0).setWidth 256)
            (boolWord (world.reply made).success) ([.push 0x00, .dup 1, .revert] ++ behind)
            ⟨[0x1a + BitVec.ofNat 256 cursor], last, made⟩
      ∧ made = events ++ [
          .call ((load message.frame (ahead 0x02 cursor) >>> 0x60).setWidth 160) 0 (slice
            (hopArguments memory
              ((byteOf (load message.frame (BitVec.ofNat 256 cursor).toNat) 1).setWidth 256).toNat
              (0xffffffff00000000000000000000000000000000000000000000000000000000
                &&& load message.frame (ahead 0x16 cursor))
              (message.address.setWidth 256)) 0 0xa4)] := ⟨_, _, rfl, rfl⟩
  rw [ahead_eq 0x1a 0x1a rfl room, step_cursor 0x1a 0x1a rfl] at run
  have field := toNat_load_mask4 message (cursor + 0x16)
  rw [holds.value] at field
  have same : made = calls := by
    rw [written, listed, toNat_ofNat_of_lt (by omega), ahead_eq 0x02 0x02 rfl (by omega),
      ahead_eq 0x16 0x16 rfl (by omega), load_address, setWidth_setWidth_address,
      load_byte message cursor (cursor + 0x01) (by norm_num) rfl, holds.offset, holds.pool,
      hop.slice_hopArguments clear field]
  subst same
  exact ⟨_, _, _, _, _, run,
    load_byte message (cursor + 0x1a) (cursor + 0x1a) (by norm_num) rfl, boolWord_ne_zero, rfl⟩

/-- The payment at the start of a path: it goes on whether or not the transfer succeeds. -/
theorem arbitrageWethInput_block (world : World) (behind : Code Label) (memory : Memory)
    (room : cursor + 0x08 < 2 ^ 256) {pool : Address} {value : ℕ} {calls : List Event}
    (target : addressAt message.data (cursor + 0x08) = pool)
    (amount : window message.data (cursor + 0x01) 5 = value)
    (listed : calls = events
      ++ [erc20TransferFrom wethAddress message.address pool (value * 2 ^ 32)]) :
    ∃ (label : Word) (last : Memory),
      (sandwich world message).block (arbitrageWethInput ++ behind)
          ⟨[BitVec.ofNat 256 cursor], memory, events⟩
        = .jump label ⟨[BitVec.ofNat 256 (cursor + 0x06)], last, calls⟩
      ∧ label.toNat = (message.data (cursor + 0x06)).toNat := by
  obtain ⟨made, last, run, written⟩ : ∃ made last,
      (sandwich world message).block (arbitrageWethInput ++ behind)
          ⟨[BitVec.ofNat 256 cursor], memory, events⟩
        = .jump ((byteOf (load message.frame (ahead 0x06 cursor)) 0).setWidth 256)
            ⟨[0x06 + BitVec.ofNat 256 cursor], last, made⟩
      ∧ made = events ++ [
          .call wethAddress 0 (slice (fundArguments memory (message.address.setWidth 256)
            (load message.frame (ahead 0x08 cursor) >>> 0x60)
            (0xffffffffff000000000000000000000000000000000000000000000000000000
              &&& load message.frame (ahead 0x01 cursor))) 0 0x64)] := ⟨_, _, rfl, rfl⟩
  rw [ahead_eq 0x06 0x06 rfl (by omega), step_cursor 0x06 0x06 rfl] at run
  have field := toNat_load_mask message (cursor + 0x01)
    0xffffffffff000000000000000000000000000000000000000000000000000000 5
    (by norm_num) (by decide)
  rw [amount] at field
  have same : made = calls := by
    rw [written, listed, ahead_eq 0x08 0x08 rfl room, ahead_eq 0x01 0x01 rfl (by omega),
      load_address, target, slice_fundArguments field]
    rfl
  subst same
  exact ⟨_, last, run, load_byte message (cursor + 0x06) (cursor + 0x06) (by norm_num) rfl⟩

end Handlers

/-! ### Paths -/

/-- The handler of a hop in front of others: only the last one pays the contract. -/
def hopHandler : List Hop → Handler
  | [] => .arbitrageV2SwapToThis
  | _ :: _ => .arbitrageV2SwapToOther

/-- Who is paid by a hop in front of others. -/
def hopRecipient (self : Address) : List Hop → Address
  | [] => self
  | next :: _ => next.pool

/-- The bytes of some hops, with the label of the exit behind them. -/
def encodeHops : List Hop → List Byte
  | [] => [0x2e]
  | hop :: rest => hop.encode (hopHandler rest) ++ encodeHops rest

/-- The swaps of some hops. -/
def hopCalls (self : Address) : List Hop → List Event
  | [] => []
  | hop :: rest => hop.swap (hopRecipient self rest) :: hopCalls self rest

/-- Make calls in order, up to the first one that fails. -/
def performCalls (world : World) (events : List Event) : List Event → Outcome
  | [] => ⟨.stop, events⟩
  | call :: calls =>
    if (world.reply (events ++ [call])).success then performCalls world (events ++ [call]) calls
    else ⟨.revert, events ++ [call]⟩

/-- A path: the WETH that goes in, divided by `2 ^ 32`, and the pools. -/
structure ArbitragePath where
  wethIn : BitVec 40
  hops : List Hop
  nonempty : hops ≠ []

namespace ArbitragePath

/-- What is behind the label that puts the cursor on the stack. -/
def encode (path : ArbitragePath) : List Byte :=
  bigEndian 1 (0x30 + 5 * Handler.arbitrageWethInput.index)
    ++ (bigEndian 5 path.wethIn.toNat ++ encodeHops path.hops)

/-- The calldata of a path. -/
def calldata (number : Word) (path : ArbitragePath) : List Byte :=
  bigEndian 1 number.toNat ++ (First.prepareStack.encode ++ path.encode)

/-- The payment to the first pool. -/
def funding (self : Address) (path : ArbitragePath) : Event :=
  erc20TransferFrom wethAddress self (path.hops.head path.nonempty).pool
    (path.wethIn.toNat * 2 ^ 32)

/-- All calls of a path. -/
def calls (self : Address) (path : ArbitragePath) : List Event :=
  path.funding self :: hopCalls self path.hops

/-- The swap of a hop, made after all calls before it, succeeds. -/
def Succeeds (world : World) (self : Address) (path : ArbitragePath) (index : ℕ) : Prop :=
  (world.reply ((path.calls self).take (index + 2))).success = true

end ArbitragePath

@[simp] theorem length_encodeHops (hops : List Hop) :
    (encodeHops hops).length = 0x1a * hops.length + 1 := by
  induction hops with
  | nil => rfl
  | cons hop rest ih =>
    rw [encodeHops, List.length_append, Hop.length_encode, ih, List.length_cons]
    ring

theorem ArbitragePath.length_calldata (number : Word) (path : ArbitragePath) :
    (path.calldata number).length = 0x1a * path.hops.length + 9 := by
  simp [calldata, encode, First.encode, First.fields]
  ring

section Perform

variable {world : World}

@[simp] theorem length_hopCalls (self : Address) (hops : List Hop) :
    (hopCalls self hops).length = hops.length := by
  induction hops with
  | nil => rfl
  | cons hop rest ih => rw [hopCalls, List.length_cons, List.length_cons, ih]

/-- Calls that all succeed are all made. -/
theorem performCalls_of_succeed (events calls : List Event)
    (succeed : ∀ index < calls.length,
      (world.reply (events ++ calls.take (index + 1))).success = true) :
    performCalls world events calls = ⟨.stop, events ++ calls⟩ := by
  induction calls generalizing events with
  | nil => simp [performCalls]
  | cons call calls ih =>
    have first : (world.reply (events ++ [call])).success = true := by
      simpa using succeed 0 (by simp)
    have later : performCalls world (events ++ [call]) calls = ⟨.stop, events ++ [call] ++ calls⟩ := by
      refine ih _ fun index inside => ?_
      have next := succeed (index + 1) (by simpa using inside)
      rwa [List.take_succ_cons, List.append_cons events call] at next
    rw [performCalls, if_pos first, later, List.append_cons events call calls]

/-- The first call that fails is the last one made. -/
theorem performCalls_of_fails (events calls : List Event) {failed : ℕ} (inside : failed < calls.length)
    (succeed : ∀ index < failed,
      (world.reply (events ++ calls.take (index + 1))).success = true)
    (fails : (world.reply (events ++ calls.take (failed + 1))).success = false) :
    performCalls world events calls = ⟨.revert, events ++ calls.take (failed + 1)⟩ := by
  induction calls generalizing events failed with
  | nil => exact absurd inside (Nat.not_lt_zero failed)
  | cons call calls ih =>
    cases failed with
    | zero =>
      have here : ¬ (world.reply (events ++ [call])).success = true := by
        simpa using fails
      rw [performCalls, if_neg here]
      simp
    | succ failed =>
      have first : (world.reply (events ++ [call])).success = true := by
        simpa using succeed 0 (Nat.succ_pos failed)
      rw [List.take_succ_cons, List.append_cons events call] at fails
      rw [performCalls, if_pos first, List.take_succ_cons, List.append_cons events call (calls.take _)]
      refine ih _ (Nat.lt_of_succ_lt_succ inside) (fun index earlier => ?_) fails
      have next := succeed (index + 1) (Nat.succ_lt_succ earlier)
      rwa [List.take_succ_cons, List.append_cons events call] at next

end Perform

/-! ### Running a path -/

section Path

variable {world : World} {message : Message} {front : List Byte} {code behind : Code Label}
  {hop : Hop} {rest : List Hop}

theorem byteAt_encodeHops (hop : Hop) (rest : List Hop) :
    (byteAt (encodeHops (hop :: rest)) 0).toNat = 0x30 + 5 * (hopHandler rest).index := by
  rw [encodeHops, Hop.encode, List.append_assoc, byteAt_label]

/-- In front of every hop, and behind the last one, lies a label. -/
theorem encodeHops_lands (hops : List Hop) :
    ∃ code, codeAt main (byteAt (encodeHops hops) 0).toNat = some code := by
  cases hops with
  | nil =>
    obtain ⟨behind, exit⟩ := codeAt_exit
    exact ⟨_, exit⟩
  | cons hop rest =>
    obtain ⟨behind, gate⟩ := codeAt_gate (hopHandler rest)
    rw [byteAt_encodeHops]
    exact ⟨_, gate⟩

/-- The pool of a hop in calldata. -/
theorem pool_laid (laid : message.calldata = front ++ encodeHops (hop :: rest)) :
    addressAt message.data (front.length + 0x02) = hop.pool := by
  rw [addressAt_laid laid, encodeHops, Hop.encode, Hop.fields]
  simp (disch := simp) only [List.append_assoc, addressAt_append_right, length_bigEndian,
    Nat.reduceSub, addressAt_bigEndian]

theorem holds_laid (laid : message.calldata = front ++ encodeHops (hop :: rest)) :
    message.Holds front.length hop := by
  refine ⟨?_, pool_laid laid, ?_⟩
  · have small : hop.offset < 256 ^ 1 := lt_of_le_of_lt hop.offset_le (by norm_num)
    rw [data_laid laid, ← window_one, encodeHops, Hop.encode, Hop.fields]
    simp (disch := simp) only [List.append_assoc, window_append_right, length_bigEndian,
      Nat.reduceSub]
    rw [window_append_left (by simp), window_bigEndian, Nat.mod_eq_of_lt small]
  · rw [window_laid laid, encodeHops, Hop.encode, Hop.fields]
    simp (disch := simp) only [List.append_assoc, window_append_right, length_bigEndian,
      Nat.reduceSub]
    rw [window_append_left (by simp), window_bigEndian, Nat.mod_eq_of_lt hop.value_lt]

/-- What is behind a hop starts `0x1a` bytes further. -/
theorem behind_laid (laid : message.calldata = front ++ encodeHops (hop :: rest)) :
    message.calldata = (front ++ hop.encode (hopHandler rest)) ++ encodeHops rest := by
  rw [laid, encodeHops, List.append_assoc]

theorem length_behind (front : List Byte) (hop : Hop) (handler : Handler) :
    (front ++ hop.encode handler).length = front.length + 0x1a := by
  rw [List.length_append, Hop.length_encode]

/-- One hop, wherever it lies in calldata and whatever happened before. -/
theorem hop_runs (world : World) (memory : Memory) (events : List Event) (behind : Code Label)
    (clear : hop.Clear) (laid : message.calldata = front ++ encodeHops (hop :: rest)) :
    (sandwich world message).Attempts ((hopHandler rest).code ++ behind)
      ⟨[BitVec.ofNat 256 front.length], memory, events⟩
      ((world.reply (events ++ [hop.swap (hopRecipient message.address rest)])).success = true)
      (byteAt (encodeHops rest) 0).toNat
      [BitVec.ofNat 256 (front ++ hop.encode (hopHandler rest)).length]
      (events ++ [hop.swap (hopRecipient message.address rest)]) := by
  have size := message.calldata_fits
  have holds := holds_laid laid
  have following := behind_laid laid
  have label : message.data (front.length + 0x1a) = byteAt (encodeHops rest) 0 := by
    rw [← length_behind front hop (hopHandler rest)]
    exact data_laid following 0
  rw [length_behind, ← label]
  cases rest with
  | nil =>
    rw [following, List.length_append, length_behind] at size
    exact arbitrageV2SwapToThis_attempts (by omega) holds clear rfl
  | cons next rest =>
    have recipient : addressAt message.data (front.length + 0x1c) = next.pool := by
      have read := pool_laid following
      rwa [length_behind] at read
    rw [following, List.length_append, length_behind, encodeHops, List.length_append,
      Hop.length_encode] at size
    exact arbitrageV2SwapToOther_attempts (by omega) holds clear recipient rfl

/-- The contract makes the swaps of the hops, on any memory and behind any calls. -/
theorem hops_end (hops : List Hop) (memory : Memory) (events : List Event)
    (clear : ∀ hop ∈ hops, hop.Clear) (laid : message.calldata = front ++ encodeHops hops)
    (here : codeAt main (byteAt (encodeHops hops) 0).toNat = some code) :
    (sandwich world message).Ends code ⟨[BitVec.ofNat 256 front.length], memory, events⟩
      (performCalls world events (hopCalls message.address hops)) := by
  induction hops generalizing front code memory events with
  | nil =>
    obtain ⟨exit, found, stops⟩ := exit_ends world message
    obtain rfl := Option.some.inj (found.symm.trans here)
    exact stops _
  | cons hop rest ih =>
    obtain ⟨gate, behind, found, entered⟩ := gate_leads world message (hopHandler rest)
      ⟨[BitVec.ofNat 256 front.length], memory, events⟩
    rw [byteAt_encodeHops, found] at here
    obtain rfl := Option.some.inj here
    have runs := hop_runs world memory events behind (clear hop (by simp)) laid
    rw [hopCalls, performCalls]
    by_cases succeeded : (world.reply
        (events ++ [hop.swap (hopRecipient message.address rest)])).success = true
    · obtain ⟨next, lands⟩ := encodeHops_lands rest
      obtain ⟨last, leads⟩ := Attempts.leads runs succeeded lands
      rw [if_pos succeeded]
      exact (entered.trans leads).ends
        (ih last _ (fun hop later => clear hop (by simp [later])) (behind_laid laid) lands)
    · rw [if_neg succeeded]
      exact entered.ends (Attempts.reverts runs succeeded)

/-- A message of the searcher that carries a path. -/
structure Message.CarriesPath (message : Message) (path : ArbitragePath) : Prop where
  caller : message.caller = searcherAddress
  calldata : message.calldata = path.calldata message.number

/-- The hops of a path start at byte 8 of calldata. -/
theorem Message.CarriesPath.hops_laid {path : ArbitragePath} (carries : message.CarriesPath path) :
    ∃ front : List Byte, front.length = 8
      ∧ message.calldata = front ++ encodeHops path.hops := by
  refine ⟨bigEndian 1 message.number.toNat ++ (First.prepareStack.encode
    ++ (bigEndian 1 (0x30 + 5 * Handler.arbitrageWethInput.index)
    ++ bigEndian 5 path.wethIn.toNat)), by simp [First.encode, First.fields], ?_⟩
  rw [carries.calldata, ArbitragePath.calldata, ArbitragePath.encode]
  simp only [List.append_assoc]

/-- The WETH of a path lies at byte 3 of calldata. -/
theorem Message.CarriesPath.wethIn_laid {path : ArbitragePath} (carries : message.CarriesPath path) :
    window message.data 0x03 5 = path.wethIn.toNat := by
  rw [Message.data, carries.calldata, ArbitragePath.calldata, ArbitragePath.encode, First.encode,
    First.fields]
  simp (disch := simp) only [List.append_assoc, List.nil_append, window_append_right,
    length_bigEndian, Nat.reduceSub]
  rw [window_append_left (by simp), window_bigEndian]
  exact Nat.mod_eq_of_lt path.wethIn.isLt

/-- From the start of the frame the contract comes to the first hop, behind the payment. -/
theorem path_enters (world : World) {path : ArbitragePath} (carries : message.CarriesPath path)
    (lands : codeAt main (byteAt (encodeHops path.hops) 0).toNat = some code) :
    ∃ memory, (sandwich world message).Leads main Machine.initial code
      ⟨[BitVec.ofNat 256 8], memory, [path.funding message.address]⟩ := by
  obtain ⟨front, eight, laid⟩ := carries.hops_laid
  have starts : message.Starts .prepareStack path.encode := ⟨carries.caller, carries.calldata⟩
  obtain ⟨gate, behind, found, entered⟩ := gate_leads world message .arbitrageWethInput
    ⟨[BitVec.ofNat 256 2], zero, []⟩
  have label : (byteAt path.encode 0).toNat = 0x30 + 5 * Handler.arbitrageWethInput.index := by
    rw [ArbitragePath.encode, byteAt_label]
  have prepared := prepareStack_leads world starts (label ▸ found)
  have pool : addressAt message.data 0x0a = (path.hops.head path.nonempty).pool := by
    obtain ⟨hop, rest, listed⟩ := List.exists_cons_of_ne_nil path.nonempty
    have read := pool_laid (listed ▸ laid)
    rw [eight] at read
    rw [read]
    simp only [listed, List.head_cons]
  obtain ⟨target, last, jumps, value⟩ := arbitrageWethInput_block world behind zero
    (by norm_num) pool carries.wethIn_laid (List.nil_append [path.funding message.address]).symm
  have first : message.data 8 = byteAt (encodeHops path.hops) 0 := by
    have read := data_laid laid 0
    rwa [eight] at read
  rw [← first, ← value] at lands
  exact ⟨last, prepared.trans (entered.trans (Leads.jump jumps lands))⟩

/-- The contract makes the calls of the path. -/
theorem path_executes (world : World) {path : ArbitragePath} (carries : message.CarriesPath path)
    (clear : ∀ hop ∈ path.hops, hop.Clear) :
    (sandwich world message).Executes (performCalls world [path.funding message.address]
      (hopCalls message.address path.hops)) := by
  obtain ⟨front, eight, laid⟩ := carries.hops_laid
  obtain ⟨code, lands⟩ := encodeHops_lands path.hops
  obtain ⟨memory, enters⟩ := path_enters world carries lands
  rw [← eight] at enters
  exact enters.ends (hops_end path.hops memory _ clear laid lands)

/-- An arbitrage path is performed hop by hop, for every behaviour of the contracts it calls: it stops
with all its calls when every swap succeeds, and otherwise it reverts at the first swap that fails. -/
theorem arbitrage_hop_by_hop (world : World) (message : Message) (path : ArbitragePath)
    (carries : message.CarriesPath path) (clear : ∀ hop ∈ path.hops, hop.Clear) :
    ∃ outcome, (sandwich world message).Executes outcome
      ∧ (outcome.halt = .stop
        ↔ ∀ index < path.hops.length, path.Succeeds world message.address index)
      ∧ (outcome.halt = .stop → outcome.events = path.calls message.address)
      ∧ (outcome.halt ≠ .stop → outcome.halt = .revert
        ∧ ∃ failed < path.hops.length, ¬ path.Succeeds world message.address failed
          ∧ (∀ index < failed, path.Succeeds world message.address index)
          ∧ outcome.events = (path.calls message.address).take (failed + 2)) := by
  refine ⟨_, path_executes world carries clear, ?_⟩
  by_cases succeed : ∀ index < path.hops.length, path.Succeeds world message.address index
  · rw [performCalls_of_succeed [path.funding message.address] (hopCalls message.address path.hops)
      fun index inside => succeed index (by simpa using inside)]
    exact ⟨iff_of_true rfl succeed, fun _ => rfl, fun moved => absurd rfl moved⟩
  · -- the first swap that fails
    have missed : ∃ failed, failed < path.hops.length
        ∧ ¬ path.Succeeds world message.address failed := by
      simpa only [not_forall, exists_prop] using succeed
    classical
    obtain ⟨inside, fails⟩ := Nat.find_spec missed
    have earlier : ∀ index < Nat.find missed, path.Succeeds world message.address index := by
      intro index small
      by_contra failing
      exact Nat.find_min missed small ⟨lt_trans small inside, failing⟩
    rw [performCalls_of_fails [path.funding message.address] (hopCalls message.address path.hops)
      (by simpa using inside) earlier (Bool.eq_false_iff.mpr fails)]
    refine ⟨iff_of_false (by simp) succeed, fun stopped => absurd stopped (by simp), fun _ => ?_⟩
    exact ⟨rfl, _, inside, fails, earlier, rfl⟩

end Path

/-- WETH to USDC on one pool and back on another. -/
def usdcPath : ArbitragePath where
  wethIn := 68155318
  hops := [
    ⟨0xB4e16d0168e52d35CaCD2c6185b44281Ec28C9Dc, true, 4093000000, 0, by norm_num, by decide,
      by norm_num⟩,
    ⟨0x397FF1542f962076d0BFE58eA045FfA2d347ACa0, false, 1043915100, 3, by norm_num, by decide,
      by norm_num⟩]
  nonempty := by simp

/-- One hop whose memory offset is 3. -/
def unclearPath : ArbitragePath where
  wethIn := 1
  hops := [⟨0xB4e16d0168e52d35CaCD2c6185b44281Ec28C9Dc, true, 1, 29, by norm_num, by decide,
    by norm_num⟩]
  nonempty := by simp

/-- The message of the searcher that carries a path. -/
def pathMessage (path : ArbitragePath) (short : path.hops.length < 2 ^ 250) : Message where
  caller := searcherAddress
  origin := searcherAddress
  address := 1
  callvalue := 0
  calldata := path.calldata 17000000
  number := 17000000
  calldata_fits := by
    rw [ArbitragePath.length_calldata]
    omega

/-- A world in which every call succeeds. -/
def obligingWorld : World := ⟨fun _ => 0, fun _ => ⟨true, []⟩, fun _ => 0, 0⟩

theorem arbitrage_hop_by_hop_usdc :
    (sandwich obligingWorld (pathMessage usdcPath (by decide))).Executes
      ⟨.stop, usdcPath.calls 1⟩ := by
  have clear : ∀ hop ∈ usdcPath.hops, hop.Clear := by
    intro hop listed
    simp only [usdcPath, List.mem_cons, List.not_mem_nil, or_false] at listed
    rcases listed with rfl | rfl <;> exact Nat.le_of_ble_eq_true rfl
  obtain ⟨outcome, executes, stops, calls, -⟩ := arbitrage_hop_by_hop obligingWorld
    (pathMessage usdcPath (by decide)) usdcPath ⟨rfl, rfl⟩ clear
  have stopped : outcome.halt = .stop := stops.mpr fun _ _ => rfl
  have made : outcome.events = usdcPath.calls 1 := calls stopped
  rw [← made, ← stopped]
  exact executes

/-- A memory offset of 3 lets the amount overwrite the last byte of the selector: every call succeeds,
and what the contract sent to the pool is no swap. -/
theorem arbitrage_selector_overwritten :
    (pathMessage unclearPath (by decide)).CarriesPath unclearPath
    ∧ (∀ index < unclearPath.hops.length, unclearPath.Succeeds obligingWorld 1 index)
    ∧ ¬ (sandwich obligingWorld (pathMessage unclearPath (by decide))).Executes
      ⟨.stop, unclearPath.calls 1⟩ := by
  refine ⟨⟨rfl, rfl⟩, fun _ _ => rfl, fun claimed => ?_⟩
  have run : (match (sandwich obligingWorld (pathMessage unclearPath (by decide))).run 16 main
      Machine.initial with
    | some outcome => decide (outcome ≠ ⟨.stop, unclearPath.calls 1⟩)
    | none => false) = true := by decide +kernel
  cases ended : (sandwich obligingWorld (pathMessage unclearPath (by decide))).run 16 main
      Machine.initial with
  | none => simp only [ended, Bool.false_eq_true] at run
  | some outcome =>
    simp only [ended, decide_eq_true_eq] at run
    exact run (Ends.unique ⟨16, ended⟩ claimed)

end Sando.Huff
