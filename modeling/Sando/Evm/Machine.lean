/-
The machine that runs labelled EVM assembly.

A program is a list of instructions in which jump targets are symbolic: `Instr.label` marks a
`JUMPDEST`, `Instr.pushLabel` pushes its byte offset. Offsets are those of the assembled byte code
(`Instr.size`): a literal takes the shortest `PUSHk`, zero is `PUSH0`, a label reference is a
`PUSH2`.

Execution goes from one control transfer to the next:

* `block` runs straight-line code up to the next `JUMP`, `JUMPI` or halt;
* `run` follows the transfers. A jump lands only on the offset of a label (`codeAt`); every other
  offset, data of a `PUSH` included, is an exceptional halt. The fuel counts blocks.

The environment of a call is split in two. `Frame` is what the message fixes: the accounts, the call
value, the calldata, the block number and the chain id. `World` is everything the code cannot see
coming: the replies of external calls, which may depend on all calls made so far, the balance of the
account, the hash function and the gas left. Gas is not metered and the stack limit is not modelled;
calls made before a halt stay on record in `Machine.events` even when the frame then reverts.
-/

import Sando.Evm.Memory

namespace Sando.Evm

/-- The instructions the modelled programs use. -/
inductive Instr (Label : Type)
  | push (value : Word)
  | pushLabel (label : Label)
  | label (label : Label)
  | add | sub | lt | gt | eq | iszero | and | byte | shl | shr | sha3
  | address | origin | caller | callvalue | calldataload | number | chainid | selfbalance | gas
  | pop | mload | mstore | dup (depth : ℕ) | swap (depth : ℕ)
  | call | jump | jumpi | stop | revert | selfdestruct

/-- A piece of a program. -/
abbrev Code (Label : Type) := List (Instr Label)

/-- What a frame does to the outside. -/
inductive Event
  | call (target : Address) (value : Word) (input : List Byte)
  | selfdestruct (beneficiary : Address)
  deriving DecidableEq

/-- The answer to an external call. -/
structure Reply where
  success : Bool
  output : List Byte

/-- The message a frame runs on. -/
structure Frame where
  caller : Address
  origin : Address
  address : Address
  callvalue : Word
  calldata : List Byte
  number : Word
  chainId : Word
  /-- The size of calldata is itself a word. -/
  calldata_fits : calldata.length < 2 ^ 256

/-- What the outside answers. The last event of a history is the one being answered. -/
structure World where
  keccak : List Byte → Word
  reply : List Event → Reply
  selfBalance : List Event → Word
  gas : Word

/-- The state of a frame between two instructions. -/
structure Machine where
  stack : List Word
  memory : Memory
  events : List Event

/-- A fresh frame. -/
def Machine.initial : Machine := ⟨[], Memory.zero, []⟩

/-- How a frame ends. `invalid` is every exceptional halt. -/
inductive Halt
  | stop | revert | invalid | selfdestruct
  deriving DecidableEq

/-- A finished frame. -/
structure Outcome where
  halt : Halt
  events : List Event
  deriving DecidableEq

/-- Where a block of straight-line code ends. -/
inductive BlockEnd (Label : Type)
  | jump (target : Word) (machine : Machine)
  | branch (target condition : Word) (rest : Code Label) (machine : Machine)
  | halt (how : Halt) (machine : Machine)

/-! ### Byte offsets -/

namespace Instr

variable {Label : Type}

/-- The number of bytes of the shortest big-endian form; zero has none. -/
def byteLength (value : Word) : ℕ :=
  if value.toNat = 0 then 0 else value.toNat.log2 / 8 + 1

/-- The bytes an instruction takes in the assembled code. -/
def size : Instr Label → ℕ
  | push value => 1 + byteLength value
  | pushLabel _ => 3
  | _ => 1

theorem size_pos (instr : Instr Label) : 0 < instr.size := by
  cases instr <;> simp [size]

end Instr

section Layout

variable {Label : Type}

/-- The code behind the label at a byte offset, if there is one. -/
def codeAt : Code Label → ℕ → Option (Code Label)
  | [], _ => none
  | .label _ :: rest, 0 => some rest
  | _ :: _, 0 => none
  | instr :: rest, offset + 1 =>
    if offset + 1 < instr.size then none else codeAt rest (offset + 1 - instr.size)

/-- The byte offset of a label. -/
def offsetOf [DecidableEq Label] : Code Label → Label → ℕ
  | [], _ => 0
  | .label name :: rest, label => if name = label then 0 else 1 + offsetOf rest label
  | instr :: rest, label => instr.size + offsetOf rest label

/-- The code behind a label. -/
def codeAfter [DecidableEq Label] : Code Label → Label → Option (Code Label)
  | [], _ => none
  | .label name :: rest, label => if name = label then some rest else codeAfter rest label
  | _ :: rest, label => codeAfter rest label

/-- Labels lie inside the assembled code. -/
theorem offsetOf_le_size [DecidableEq Label] (program : Code Label) (label : Label) :
    offsetOf program label ≤ (program.map Instr.size).sum := by
  induction program with
  | nil => simp [offsetOf]
  | cons instr rest ih =>
    rw [List.map_cons, List.sum_cons]
    cases instr with
    | label name =>
      rw [offsetOf]
      split
      · omega
      · exact Nat.add_le_add_left ih 1
    | _ => exact Nat.add_le_add_left ih _

/-- Jumping over an instruction. -/
theorem codeAt_size_add (instr : Instr Label) (rest : Code Label) (offset : ℕ) :
    codeAt (instr :: rest) (instr.size + offset) = codeAt rest offset := by
  obtain ⟨before, positive⟩ : ∃ before, instr.size + offset = before + 1 :=
    ⟨instr.size + offset - 1, by have := instr.size_pos; omega⟩
  have unfolded : codeAt (instr :: rest) (before + 1)
      = if before + 1 < instr.size then none else codeAt rest (before + 1 - instr.size) := by
    cases instr <;> rfl
  rw [positive, unfolded, if_neg (by omega), ← positive, Nat.add_sub_cancel_left]

/-- A defined label is found at its offset. -/
theorem codeAt_offsetOf [DecidableEq Label] {program behind : Code Label} {label : Label}
    (defined : codeAfter program label = some behind) :
    codeAt program (offsetOf program label) = some behind := by
  induction program with
  | nil => exact absurd defined (by simp [codeAfter])
  | cons instr rest ih =>
    by_cases here : instr = .label label
    · subst here
      rw [codeAfter, if_pos rfl] at defined
      rw [offsetOf, if_pos rfl, codeAt, defined]
    · have offset : offsetOf (instr :: rest) label = instr.size + offsetOf rest label := by
        cases instr with
        | label name => exact if_neg fun same => here (by rw [same])
        | _ => rfl
      have later : codeAfter (instr :: rest) label = codeAfter rest label := by
        cases instr with
        | label name => exact if_neg fun same => here (by rw [same])
        | _ => rfl
      rw [offset, codeAt_size_add]
      exact ih (later ▸ defined)

end Layout

/-! ### Execution -/

/-- A program with everything its execution depends on. -/
structure Context (Label : Type) where
  world : World
  frame : Frame
  program : Code Label

namespace Context

variable {Label : Type} [DecidableEq Label]

/-- The word a label reference pushes. -/
def labelWord (context : Context Label) (label : Label) : Word :=
  BitVec.ofNat 256 (offsetOf context.program label)

/-- The calldata word at an offset. -/
def load (frame : Frame) (offset : ℕ) : Word := wordAt (byteAt frame.calldata) offset

/-- The effect of an instruction that neither jumps nor halts; `none` on stack underflow. -/
def straight (context : Context Label) : Instr Label → Machine → Option Machine
  | .push value, ⟨stack, memory, events⟩ => some ⟨value :: stack, memory, events⟩
  | .pushLabel label, ⟨stack, memory, events⟩ =>
    some ⟨context.labelWord label :: stack, memory, events⟩
  | .label _, machine => some machine
  | .add, ⟨a :: b :: stack, memory, events⟩ => some ⟨(a + b) :: stack, memory, events⟩
  | .sub, ⟨a :: b :: stack, memory, events⟩ => some ⟨(a - b) :: stack, memory, events⟩
  | .lt, ⟨a :: b :: stack, memory, events⟩ => some ⟨boolWord (a < b) :: stack, memory, events⟩
  | .gt, ⟨a :: b :: stack, memory, events⟩ => some ⟨boolWord (b < a) :: stack, memory, events⟩
  | .eq, ⟨a :: b :: stack, memory, events⟩ => some ⟨boolWord (a = b) :: stack, memory, events⟩
  | .iszero, ⟨a :: stack, memory, events⟩ => some ⟨boolWord (a = 0) :: stack, memory, events⟩
  | .and, ⟨a :: b :: stack, memory, events⟩ => some ⟨(a &&& b) :: stack, memory, events⟩
  | .byte, ⟨index :: a :: stack, memory, events⟩ =>
    some ⟨(if index.toNat < 32 then (byteOf a index.toNat).setWidth 256 else 0) :: stack,
      memory, events⟩
  | .shl, ⟨bits :: a :: stack, memory, events⟩ => some ⟨(a <<< bits.toNat) :: stack, memory, events⟩
  | .shr, ⟨bits :: a :: stack, memory, events⟩ => some ⟨(a >>> bits.toNat) :: stack, memory, events⟩
  | .sha3, ⟨offset :: count :: stack, memory, events⟩ =>
    some ⟨context.world.keccak (slice memory offset.toNat count.toNat) :: stack, memory, events⟩
  | .address, ⟨stack, memory, events⟩ =>
    some ⟨context.frame.address.setWidth 256 :: stack, memory, events⟩
  | .origin, ⟨stack, memory, events⟩ =>
    some ⟨context.frame.origin.setWidth 256 :: stack, memory, events⟩
  | .caller, ⟨stack, memory, events⟩ =>
    some ⟨context.frame.caller.setWidth 256 :: stack, memory, events⟩
  | .callvalue, ⟨stack, memory, events⟩ => some ⟨context.frame.callvalue :: stack, memory, events⟩
  | .calldataload, ⟨offset :: stack, memory, events⟩ =>
    some ⟨load context.frame offset.toNat :: stack, memory, events⟩
  | .number, ⟨stack, memory, events⟩ => some ⟨context.frame.number :: stack, memory, events⟩
  | .chainid, ⟨stack, memory, events⟩ => some ⟨context.frame.chainId :: stack, memory, events⟩
  | .selfbalance, ⟨stack, memory, events⟩ =>
    some ⟨context.world.selfBalance events :: stack, memory, events⟩
  | .gas, ⟨stack, memory, events⟩ => some ⟨context.world.gas :: stack, memory, events⟩
  | .pop, ⟨_ :: stack, memory, events⟩ => some ⟨stack, memory, events⟩
  | .mload, ⟨offset :: stack, memory, events⟩ =>
    some ⟨wordAt memory offset.toNat :: stack, memory, events⟩
  | .mstore, ⟨offset :: value :: stack, memory, events⟩ =>
    some ⟨stack, memory.mstore offset.toNat value, events⟩
  | .dup depth, ⟨stack, memory, events⟩ =>
    match stack[depth - 1]? with
    | some value => some ⟨value :: stack, memory, events⟩
    | none => none
  | .swap depth, ⟨top :: stack, memory, events⟩ =>
    match stack[depth - 1]? with
    | some value => some ⟨value :: stack.set (depth - 1) top, memory, events⟩
    | none => none
  | .call, ⟨_ :: target :: value :: inOffset :: inSize :: outOffset :: outSize :: stack,
      memory, events⟩ =>
    -- the history the reply may depend on ends with this call
    let history := events ++
      [.call (target.setWidth 160) value (slice memory inOffset.toNat inSize.toNat)]
    let reply := context.world.reply history
    some ⟨boolWord reply.success :: stack,
      memory.copy outOffset.toNat outSize.toNat reply.output, history⟩
  | _, _ => none

/-- Run straight-line code up to the next control transfer. -/
def block (context : Context Label) : Code Label → Machine → BlockEnd Label
  | [], machine => .halt .stop machine
  | .jump :: _, ⟨target :: stack, memory, events⟩ => .jump target ⟨stack, memory, events⟩
  | .jumpi :: rest, ⟨target :: condition :: stack, memory, events⟩ =>
    .branch target condition rest ⟨stack, memory, events⟩
  | .stop :: _, machine => .halt .stop machine
  | .revert :: _, ⟨_ :: _ :: stack, memory, events⟩ => .halt .revert ⟨stack, memory, events⟩
  | .selfdestruct :: _, ⟨beneficiary :: stack, memory, events⟩ =>
    .halt .selfdestruct ⟨stack, memory, events ++ [.selfdestruct (beneficiary.setWidth 160)]⟩
  | instr :: rest, machine =>
    match context.straight instr machine with
    | some next => context.block rest next
    | none => .halt .invalid machine

/-- Follow at most `fuel` blocks; `none` when the frame has not ended by then. -/
def run (context : Context Label) : ℕ → Code Label → Machine → Option Outcome
  | 0, _, _ => none
  | fuel + 1, code, machine =>
    match context.block code machine with
    | .halt how last => some ⟨how, last.events⟩
    | .jump target next =>
      match codeAt context.program target.toNat with
      | some behind => context.run fuel behind next
      | none => some ⟨.invalid, next.events⟩
    | .branch target condition rest next =>
      if condition = 0 then context.run fuel rest next
      else match codeAt context.program target.toNat with
        | some behind => context.run fuel behind next
        | none => some ⟨.invalid, next.events⟩

end Context

end Sando.Evm
