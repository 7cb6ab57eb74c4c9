/-
What a payload makes the contract do.

`Makes number payload value calls` says that the searcher, who sends this payload with this call value in
block `number`, gets exactly these calls, whatever the contracts it calls answer. A payload makes one
list of calls only (`Makes.eq_iff`), so that a wrong call refutes every other claim about it.
-/

import Sando.Huff.Layout
import Sando.TxBuilder.EncodePacked

namespace Sando.RoundTrip

open Sando.Evm Sando.Evm.Context Sando.Huff Sando.TxBuilder

/-- A message that the searcher sends in block `number` with what a builder returned. -/
structure Sends (message : Message) (number : Word) (payload : List Byte) (value : Word) : Prop where
  caller : message.caller = searcherAddress
  number : message.number = number
  calldata : message.calldata = payload
  callvalue : message.callvalue = value

/-- Sending the payload makes exactly these calls, which may depend on the address of the
contract. -/
def Makes (number : Word) (payload : List Byte) (value : Word) (calls : Address → List Event) : Prop :=
  ∀ world message, Sends message number payload value →
    ∃ halt, (sandwich world message).Executes ⟨halt, calls message.address⟩

/-- The same, and the contract stops when the last one succeeds and reverts otherwise. -/
def Completes (number : Word) (payload : List Byte) (value : Word) (calls : Address → List Event) :
    Prop :=
  ∀ world message, Sends message number payload value →
    (sandwich world message).Executes
      ⟨if (world.reply (calls message.address)).success = true then .stop else .revert,
        calls message.address⟩

theorem Completes.makes {number : Word} {payload : List Byte} {value : Word}
    {calls : Address → List Event} (completes : Completes number payload value calls) :
    Makes number payload value calls :=
  fun world message sends => ⟨_, completes world message sends⟩

section Sends

variable {message : Message} {number value : Word} {payload rest : List Byte} {name : ℕ}

theorem Sends.data_eq (sends : Sends message number payload value) :
    message.data = byteAt payload := by
  rw [Message.data, sends.calldata]

/-- A payload with the block number in front is authorised. -/
theorem Sends.authorised
    (sends : Sends message number (bigEndian 1 number.toNat ++ rest) value) :
    message.Authorised := by
  refine ⟨sends.caller, ?_⟩
  rw [sends.data_eq, sends.number, ← window_one, window_append_left (by simp), window_bigEndian]
  rfl

/-- The label behind the block number. -/
theorem Sends.label (small : name < 256)
    (sends : Sends message number
      (bigEndian 1 number.toNat ++ (bigEndian 1 name ++ rest)) value) :
    (message.data 1).toNat = name := by
  rw [sends.data_eq, ← window_one, window_append_right (by simp), length_bigEndian]
  exact window_field small

/-- The searcher can send any payload. -/
theorem exists_sends (number value : Word) (self : Address) (fits : payload.length < 2 ^ 256) :
    ∃ message, Sends message number payload value ∧ message.address = self :=
  ⟨⟨searcherAddress, searcherAddress, self, value, payload, number, fits⟩, ⟨rfl, rfl, rfl, rfl⟩, rfl⟩

/-- A world in which every call succeeds and returns nothing. -/
def quietWorld : World := ⟨fun _ => 0, fun _ => ⟨true, []⟩, fun _ => 0, 0⟩

/-- A payload makes one list of calls. -/
theorem Makes.eq_iff {calls other : Address → List Event} (fits : payload.length < 2 ^ 256)
    (makes : Makes number payload value calls) :
    Makes number payload value other ↔ ∀ self, other self = calls self := by
  constructor
  · intro makesOther self
    obtain ⟨message, sends, rfl⟩ := exists_sends number value self fits
    obtain ⟨halt, executes⟩ := makes quietWorld message sends
    obtain ⟨otherHalt, executesOther⟩ := makesOther quietWorld message sends
    exact congrArg Outcome.events (executesOther.unique executes)
  · intro same world message sends
    obtain ⟨halt, executes⟩ := makes world message sends
    exact ⟨halt, (same message.address).symm ▸ executes⟩

end Sends

end Sando.RoundTrip
