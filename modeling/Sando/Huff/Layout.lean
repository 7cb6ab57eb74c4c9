/-
Where the labels of the contract lie, and how execution reaches a handler.

The layout is computed, not assumed: `offsetOf_exit` puts the exit at `0x2e`, `offsetOf_gate` puts the
gates at `0x30` in steps of five bytes, and `label_byte` lists every byte that is a valid jump
target. A frame is dispatched exactly when it is `Authorised`: it comes from the searcher and its
first calldata byte is the block number modulo 256 (`entry_block`). Then calldata byte 1 selects the
gate (`dispatch`).
-/

import Sando.Evm.Abi
import Sando.Evm.Execution
import Sando.Huff.Sandwich

namespace Sando.Huff

open Sando.Evm Sando.Evm.Context

/-! ### Byte offsets -/

set_option maxRecDepth 20000 in
/-- The assembled contract fits two-byte jump offsets. -/
theorem size_main : (main.map Instr.size).sum < 2 ^ 16 := by decide +kernel

theorem offsetOf_exit : offsetOf main .exit = 0x2e := rfl

theorem offsetOf_gate (handler : Handler) :
    offsetOf main (.gate handler) = 0x30 + 5 * handler.index := by
  cases handler <;> rfl

theorem gate_lt (handler : Handler) : 0x30 + 5 * handler.index < 256 := by
  cases handler <;> decide

theorem codeAfter_exit : ∃ behind, codeAfter main .exit = some (.stop :: behind) := ⟨_, rfl⟩

theorem codeAfter_entryPoint :
    ∃ behind, codeAfter main .entryPoint = some (entryPoint ++ behind) := ⟨_, rfl⟩

theorem codeAfter_gate (handler : Handler) : ∃ behind,
    codeAfter main (.gate handler) = some (.pushLabel (.handler handler) :: .jump :: behind) := by
  cases handler <;> exact ⟨_, rfl⟩

/-- A payload can jump to the exit. -/
theorem codeAt_exit : ∃ behind, codeAt main 0x2e = some (.stop :: behind) := by
  obtain ⟨behind, defined⟩ := codeAfter_exit
  rw [← offsetOf_exit]
  exact ⟨behind, codeAt_offsetOf defined⟩

/-- A payload can jump to a gate. -/
theorem codeAt_gate (handler : Handler) : ∃ behind, codeAt main (0x30 + 5 * handler.index)
    = some (.pushLabel (.handler handler) :: .jump :: behind) := by
  obtain ⟨behind, defined⟩ := codeAfter_gate handler
  rw [← offsetOf_gate]
  exact ⟨behind, codeAt_offsetOf defined⟩

theorem codeAfter_v3Callback :
    ∃ behind, codeAfter main .v3Callback = some (v3Callback ++ behind) := ⟨_, rfl⟩

theorem codeAfter_v3CallbackTokenTransfer : ∃ behind,
    codeAfter main .v3CallbackTokenTransfer = some (v3CallbackTokenTransfer ++ behind) := ⟨_, rfl⟩

theorem codeAfter_isZeroForOne :
    ∃ behind, codeAfter main .isZeroForOne = some (isZeroForOne ++ behind) := ⟨_, rfl⟩

set_option maxRecDepth 20000 in
theorem codeAfter_handler (handler : Handler) :
    ∃ behind, codeAfter main (.handler handler) = some (handler.code ++ behind) := by
  cases handler <;> exact ⟨_, rfl⟩

set_option maxRecDepth 20000 in
theorem codeAfter_gtfo2 : codeAfter main .gtfo2 = some gtfo2 := rfl

/-- The bytes that are jump targets: the entry point, the exit, the callback and the gates. -/
theorem label_byte {label : ℕ} (small : label < 256) {behind : Code Label}
    (lands : codeAt main label = some behind) :
    label = 0x2a ∨ label = 0x2e ∨ label = 0x9e ∨
      ∃ handler : Handler, label = 0x30 + 5 * handler.index := by
  have table : ∀ byte : Fin 256, (codeAt main byte.val).isSome = true →
      byte.val = 0x2a ∨ byte.val = 0x2e ∨ byte.val = 0x9e ∨
        ∃ handler ∈ Handler.all, byte.val = 0x30 + 5 * handler.index := by
    decide +kernel
  rcases table ⟨label, small⟩ (by rw [lands]; rfl) with first | second | third | ⟨handler, _, gate⟩
  · exact Or.inl first
  · exact Or.inr (Or.inl second)
  · exact Or.inr (Or.inr (Or.inl third))
  · exact Or.inr (Or.inr (Or.inr ⟨handler, gate⟩))

/-- A label reference pushes the offset itself. -/
theorem codeAt_labelWord {world : World} {frame : Frame} {label : Label} {behind : Code Label}
    (defined : codeAfter main label = some behind) :
    codeAt main ((⟨world, frame, main⟩ : Context Label).labelWord label).toNat = some behind := by
  have bound := lt_of_le_of_lt (offsetOf_le_size main label) size_main
  rw [labelWord, toNat_ofNat_of_lt (lt_trans bound (by norm_num))]
  exact codeAt_offsetOf defined

/-! ### Messages to the contract -/

/-- A message to the contract on chain 1. -/
structure Message where
  caller : Address
  origin : Address
  address : Address
  callvalue : Word
  calldata : List Byte
  number : Word
  calldata_fits : calldata.length < 2 ^ 256

/-- The frame a message opens. -/
def Message.frame (message : Message) : Frame where
  caller := message.caller
  origin := message.origin
  address := message.address
  callvalue := message.callvalue
  calldata := message.calldata
  number := message.number
  chainId := 1
  calldata_fits := message.calldata_fits

/-- The contract, called with a message. -/
abbrev sandwich (world : World) (message : Message) : Context Label :=
  ⟨world, message.frame, main⟩

theorem labelWord_exit {world : World} {message : Message} :
    ((sandwich world message).labelWord .exit).toNat = 0x2e := by
  rw [labelWord, offsetOf_exit]
  rfl

/-- The calldata of a message as a sequence of bytes. -/
abbrev Message.data (message : Message) : ℕ → Byte := byteAt message.calldata

section Reading

variable (message : Message) (offset : ℕ)

theorem toNat_load : (load message.frame offset).toNat = window message.data offset 32 :=
  toNat_wordAt _ _

/-- A calldata word, shifted down to an address. -/
theorem load_address :
    load message.frame offset >>> 0x60 = (addressAt message.data offset).setWidth 256 :=
  wordAt_shiftRight_address _ _

/-- A byte of a calldata word. -/
theorem load_byte (place : ℕ) {index : ℕ} (small : index < 32) (sum : offset + index = place) :
    ((byteOf (load message.frame offset) index).setWidth 256).toNat = (message.data place).toNat := by
  have byte := (message.data place).isLt
  rw [load, byteOf_wordAt _ small, BitVec.toNat_setWidth, sum]
  exact Nat.mod_eq_of_lt (lt_trans byte (by norm_num))

/-- The leading bytes of a calldata word, behind a mask. -/
theorem toNat_load_mask (mask : Word) (count : ℕ) (small : count ≤ 32)
    (shape : mask.toNat = (2 ^ (8 * count) - 1) * 2 ^ (8 * (32 - count))) :
    (mask &&& load message.frame offset).toNat
      = window message.data offset count * 256 ^ (32 - count) := by
  rw [BitVec.and_comm]
  exact toNat_wordAt_and_mask _ _ small shape

theorem toNat_load_mask4 :
    (0xffffffff00000000000000000000000000000000000000000000000000000000
      &&& load message.frame offset).toNat = window message.data offset 4 * 256 ^ 28 :=
  toNat_load_mask message offset _ 4 (by norm_num) (by decide)

/-- The last five bytes of a calldata word. -/
theorem toNat_load_lowMask5 :
    (0x000000000000000000000000000000000000000000000000000000ffffffffff
      &&& load message.frame offset).toNat = window message.data (offset + 27) 5 := by
  rw [BitVec.and_comm, toNat_and_lowMask _ _ 40 (by decide), toNat_load,
    window_low message.data offset 27 5]
  norm_num

/-- The leading five bytes of a calldata word, shifted down. -/
theorem toNat_load_shift5 :
    (load message.frame offset >>> 0xd8).toNat = window message.data offset 5 :=
  toNat_wordAt_shiftRight _ _ 5 (by norm_num) (by norm_num)

end Reading

/-! ### Cursors -/

/-- The calldata offset `step` bytes ahead of a cursor. -/
abbrev ahead (step : Word) (cursor : ℕ) : ℕ := (step + BitVec.ofNat 256 cursor).toNat

section Cursor

variable {cursor : ℕ} (step : Word) (skipped : ℕ)

/-- Reading ahead of a cursor inside calldata. -/
theorem ahead_eq (value : step.toNat = skipped) (room : cursor + skipped < 2 ^ 256) :
    ahead step cursor = cursor + skipped := by
  rw [ahead, BitVec.toNat_add, toNat_ofNat_of_lt (by omega), value, Nat.add_comm, Nat.mod_eq_of_lt room]

/-- Moving a cursor. -/
theorem step_cursor (value : step.toNat = skipped) :
    step + BitVec.ofNat 256 cursor = BitVec.ofNat 256 (cursor + skipped) := by
  rw [← value, BitVec.ofNat_add, BitVec.ofNat_toNat, BitVec.setWidth_eq, BitVec.add_comm]

end Cursor

/-- The searcher as an address. -/
def searcherAddress : Address := searcher.setWidth 160

/-- Called by the searcher, with the block number in front. -/
def Message.Authorised (message : Message) : Prop :=
  message.caller = searcherAddress ∧ (message.data 0).toNat = message.number.toNat % 256

instance (message : Message) : Decidable message.Authorised := by
  unfold Message.Authorised
  infer_instance

section Dispatch

variable {world : World} {message : Message}

theorem setWidth_eq_searcher (address : Address) :
    address.setWidth 256 = searcher ↔ address = searcherAddress := by
  constructor
  · intro same
    rw [searcherAddress, ← same]
    exact BitVec.eq_of_toNat_eq (by simp)
  · rintro rfl
    decide

/-- The entry compares caller and block number and keeps the first calldata word. -/
theorem entry_block (world : World) (message : Message) : ∃ condition rest,
    (sandwich world message).block main Machine.initial
        = .branch ((sandwich world message).labelWord .entryPoint) condition
          (.pushLabel .v3Callback :: .jump :: rest) ⟨[load message.frame 0], Memory.zero, []⟩
      ∧ (condition = 0 ↔ ¬ message.Authorised) := by
  refine ⟨boolWord (message.caller.setWidth 256 = searcher)
    &&& boolWord ((0xff &&& message.number)
      = (byteOf (load message.frame 0) 0).setWidth 256), _, rfl, ?_⟩
  have first : byteOf (load message.frame 0) 0 = message.data 0 := byteOf_wordAt _ (by omega)
  have number : (0xff &&& message.number : Word).toNat = message.number.toNat % 256 := by
    rw [BitVec.and_comm]
    exact toNat_and_lowMask _ _ 8 (by decide)
  have byte : (0xff &&& message.number : Word) = (message.data 0).setWidth 256
      ↔ (message.data 0).toNat = message.number.toNat % 256 := by
    have small : (message.data 0).toNat < 2 ^ 256 := lt_trans (message.data 0).isLt (by norm_num)
    rw [← BitVec.toNat_inj, number, BitVec.toNat_setWidth, Nat.mod_eq_of_lt small, eq_comm]
  rw [first, boolWord_and, boolWord_eq_zero, Message.Authorised, Bool.and_eq_false_iff,
    decide_eq_false_iff_not, decide_eq_false_iff_not, setWidth_eq_searcher, byte, not_and_or]

/-- An authorised message reaches the dispatch. -/
theorem authorised_leads (world : World) (authorised : message.Authorised) : ∃ behind,
    (sandwich world message).Leads main Machine.initial (entryPoint ++ behind)
      ⟨[load message.frame 0], Memory.zero, []⟩ := by
  obtain ⟨condition, rest, branches, holds⟩ := entry_block world message
  obtain ⟨behind, defined⟩ := codeAfter_entryPoint
  exact ⟨behind, Leads.taken branches (fun zero => holds.mp zero authorised)
    (codeAt_labelWord defined)⟩

/-- Every other message reaches the callback. -/
theorem unauthorised_leads (world : World) (unauthorised : ¬ message.Authorised) : ∃ behind,
    (sandwich world message).Leads main Machine.initial (v3Callback ++ behind)
      ⟨[load message.frame 0], Memory.zero, []⟩ := by
  obtain ⟨condition, rest, branches, holds⟩ := entry_block world message
  obtain ⟨behind, defined⟩ := codeAfter_v3Callback
  exact ⟨behind, (Leads.fall branches (holds.mpr unauthorised)).trans
    (Leads.jump rfl (codeAt_labelWord defined))⟩

/-- The dispatch jumps to calldata byte 1. -/
theorem entryPoint_block (world : World) (message : Message) (behind : Code Label) : ∃ label : Word,
    (sandwich world message).block (entryPoint ++ behind)
        ⟨[load message.frame 0], Memory.zero, []⟩ = .jump label Machine.initial
      ∧ label.toNat = (message.data 1).toNat := by
  exact ⟨(byteOf (load message.frame 0) 1).setWidth 256, rfl, load_byte message 0 1 (by norm_num) rfl⟩

/-- A gate leads to its handler and changes nothing. -/
theorem gate_leads (world : World) (message : Message) (handler : Handler) (machine : Machine) :
    ∃ gate behind, codeAt main (0x30 + 5 * handler.index) = some gate
      ∧ (sandwich world message).Leads gate machine (handler.code ++ behind) machine := by
  obtain ⟨gateBehind, gate⟩ := codeAt_gate handler
  obtain ⟨behind, body⟩ := codeAfter_handler handler
  have jumps : (sandwich world message).block
      (.pushLabel (.handler handler) :: .jump :: gateBehind) machine
        = .jump ((sandwich world message).labelWord (.handler handler)) machine := by
    cases machine
    rfl
  exact ⟨_, behind, gate, Leads.jump jumps (codeAt_labelWord body)⟩

/-- The exit stops. -/
theorem exit_ends (world : World) (message : Message) : ∃ behind, codeAt main 0x2e = some behind
    ∧ ∀ machine, (sandwich world message).Ends behind machine ⟨.stop, machine.events⟩ := by
  obtain ⟨behind, exit⟩ := codeAt_exit
  exact ⟨_, exit, fun _ => Ends.halt rfl⟩

/-- The dispatch: an authorised message whose byte 1 is the label of a gate starts the handler on
a fresh machine. -/
theorem dispatch (world : World) (handler : Handler) (authorised : message.Authorised)
    (label : (message.data 1).toNat = 0x30 + 5 * handler.index) : ∃ behind,
    (sandwich world message).Leads main Machine.initial (handler.code ++ behind)
      Machine.initial := by
  obtain ⟨entryBehind, entered⟩ := authorised_leads world authorised
  obtain ⟨target, jumps, value⟩ := entryPoint_block world message entryBehind
  obtain ⟨gate, behind, lands, leads⟩ :=
    gate_leads world message handler Machine.initial
  rw [← label, ← value] at lands
  exact ⟨behind, entered.trans ((Leads.jump jumps lands).trans leads)⟩

/-- The whole run of a message to a handler that makes its calls and then exits or reverts. -/
theorem single_executes (handler : Handler) (authorised : message.Authorised)
    (label : (message.data 1).toNat = 0x30 + 5 * handler.index) {passed : Prop} [Decidable passed]
    {calls : List Event}
    (attempts : ∀ behind, (sandwich world message).Attempts (handler.code ++ behind)
      Machine.initial passed 0x2e [] calls) :
    (sandwich world message).Executes ⟨if passed then .stop else .revert, calls⟩ := by
  obtain ⟨behind, dispatched⟩ := dispatch world handler authorised label
  refine dispatched.ends ?_
  by_cases holds : passed
  · obtain ⟨exit, lands, ends⟩ := exit_ends world message
    obtain ⟨last, leads⟩ := (attempts behind).leads holds lands
    rw [if_pos holds]
    exact leads.ends (ends _)
  · rw [if_neg holds]
    exact (attempts behind).reverts holds

end Dispatch

end Sando.Huff
