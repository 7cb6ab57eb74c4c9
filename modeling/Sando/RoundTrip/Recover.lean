/-
The transaction that recovers WETH.

On every new block the bot may send a payload with a call value that is to unwrap some WETH. The payload
of the contract's test has the block number in front of the label of the handler, and unwraps the
amount (`labelled_recovers`). The payload of the bot is one byte, which is no label and stands where the
block number is expected: no block and no amount makes it recover anything (`recover_weth_never`).
-/

import Sando.Huff.Recover
import Sando.RoundTrip.Makes
import Sando.TxBuilder.SwapValue

namespace Sando.RoundTrip

open Sando.Evm Sando.Evm.Context Sando.Huff Sando.TxBuilder

/-- The payload and the call value of the bot. -/
def getRecoverWethPayloadValue (recoverAmount : Word) : List Byte × Word :=
  let swapType : Word := 124
  let payload := encodePacked [.numberWithShift swapType ⟨8, fits_8⟩]
  let value := BitVec.ofNat 256 (recoverAmount.toNat / getWethEncodeDivisor)
  (payload, value)

/-- The message unwraps the amount and sends the balance to the searcher, and it stops if and only if
both calls succeed. -/
def Recovers (world : World) (message : Message) (amount : ℕ) : Prop :=
  ∃ halt, (sandwich world message).Executes ⟨halt, recoverCalls world searcherAddress amount⟩
    ∧ (halt = .stop ↔ recovered world searcherAddress amount = true)

section Recover

variable {world : World} {message : Message} {number recoverAmount : Word}

/-- The payload of the test, with the call value of the bot. -/
theorem labelled_recovers (sends : Sends message number (bigEndian 1 number.toNat ++ (bigEndian 1 0x94
      ++ [])) (getRecoverWethPayloadValue recoverAmount).2) :
    Recovers world message (encodeWeth recoverAmount.toNat) := by
  have bound := recoverAmount.isLt
  have value : message.callvalue.toNat = recoverAmount.toNat / 2 ^ 32 := by
    rw [sends.callvalue, getRecoverWethPayloadValue, BitVec.toNat_ofNat, getWethEncodeDivisor,
      show (4294967296 : ℕ) = 2 ^ 32 by norm_num]
    exact Nat.mod_eq_of_lt ((Nat.div_le_self _ _).trans_lt bound)
  have amount : message.callvalue.toNat * 2 ^ 32 = encodeWeth recoverAmount.toNat :=
    congrArg (· * 2 ^ 32) value
  have executes := @recoverWeth_executes world message _ sends.authorised
    (sends.label (by norm_num)) (by omega) amount
  rw [sends.caller] at executes
  refine ⟨_, executes, ?_⟩
  by_cases both : recovered world searcherAddress (encodeWeth recoverAmount.toNat) = true
  · exact iff_of_true (if_pos both) both
  · refine iff_of_false ?_ both
    rw [show recovered world searcherAddress _ = false from Bool.eq_false_iff.mpr both]
    decide

/-- A message without a second byte recovers nothing. -/
theorem short_not_recovers (short : (message.data 1).toNat = 0) (amount : ℕ) :
    ¬ Recovers world message amount := by
  rintro ⟨halt, recovers, -⟩
  obtain ⟨outcome, executes, few⟩ := short_executes world message short
  rw [executes.unique recovers] at few
  exact absurd few (Nat.not_succ_le_self 1)

/-- Half an ether, in a block whose number does not end in the payload's byte. -/
def halfEther : Message where
  caller := searcherAddress
  origin := searcherAddress
  address := 1
  callvalue := (getRecoverWethPayloadValue 500000000000000000).2
  calldata := (getRecoverWethPayloadValue 500000000000000000).1
  number := 17000000
  calldata_fits := by decide

/-- Its transaction stops, and no call was made. -/
theorem recover_weth_stops : Sends halfEther 17000000
      (getRecoverWethPayloadValue 500000000000000000).1 (getRecoverWethPayloadValue 500000000000000000).2
    ∧ (sandwich quietWorld halfEther).Executes ⟨.stop, []⟩
    ∧ ¬ Recovers quietWorld halfEther (encodeWeth 500000000000000000) := by
  have stops : (sandwich quietWorld halfEther).Executes ⟨.stop, []⟩ := ⟨20, by decide +kernel⟩
  refine ⟨⟨rfl, rfl, rfl, rfl⟩, stops, ?_⟩
  rintro ⟨halt, recovers, -⟩
  exact List.cons_ne_nil _ _ (congrArg Outcome.events (recovers.unique stops))

/-- The transaction of the bot never recovers WETH. -/
theorem recover_weth_never (sends : Sends message number (getRecoverWethPayloadValue recoverAmount).1
      (getRecoverWethPayloadValue recoverAmount).2) :
    ¬ Recovers world message (encodeWeth recoverAmount.toNat) := by
  refine short_not_recovers ?_ _
  rw [sends.data_eq]
  rfl

/-- Neither for half an ether. -/
theorem recover_weth_never_half_ether :
    ¬ Recovers quietWorld halfEther (encodeWeth (500000000000000000 : Word).toNat) :=
  @recover_weth_never _ _ 17000000 _ ⟨rfl, rfl, rfl, rfl⟩

end Recover

end Sando.RoundTrip
