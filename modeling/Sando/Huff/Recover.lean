/-
The handler that recovers ether.

`recover_weth` stores the call value right behind the selector, with four bytes of zeros behind it, so
that WETH reads it shifted by 32 bits. It sends what the contract then owns to the caller, whether or
not the withdrawal succeeded, and reverts unless both calls did (`recoverWeth_executes`).
-/

import Sando.Huff.Callback
import Sando.Huff.V2

namespace Sando.Huff

open Sando.Evm Sando.Evm.Context Memory

/-- `WETH.withdraw(amount)`. -/
def wethWithdraw (amount : ℕ) : Event := .call wethAddress 0 (encodeCall 0x2e1a7d4d [amount])

/-- Withdraw an amount, then send the whole balance. -/
def recoverCalls (world : World) (recipient : Address) (amount : ℕ) : List Event :=
  [wethWithdraw amount, .call recipient (world.selfBalance [wethWithdraw amount]) []]

/-- Both calls succeed. -/
def recovered (world : World) (recipient : Address) (amount : ℕ) : Bool :=
  (world.reply (recoverCalls world recipient amount)).success
    && (world.reply [wethWithdraw amount]).success

section Recover

variable {world : World} {message : Message} {behind : Code Label}

/-- The argument of `withdraw`. -/
theorem slice_withdrawArguments {amount : Word} (fits : amount.toNat < 2 ^ 224) :
    Event.call wethAddress 0 (slice (mstore zero 0x00 (amount + withdrawSig)) 0 0x24)
      = wethWithdraw (amount.toNat * 2 ^ 32) := by
  have sum : (amount + withdrawSig).toNat = 0x2e1a7d4d * 2 ^ 224 + amount.toNat := by
    have selector : withdrawSig.toNat = 0x2e1a7d4d * 2 ^ 224 := by decide
    rw [BitVec.toNat_add, selector]
    omega
  refine congrArg (Event.call wethAddress 0) (slice_eq_encodeCall rfl ?_ ?_)
  · simp (disch := omega) only [window_mstore_inside, sum]
    norm_num
    omega
  · simp (disch := omega) only [List.length_cons, List.length_nil, wordsAt, Nat.reduceAdd,
      Nat.reduceSub, window_mstore_head, window_zero, sum]
    have low : (0x2e1a7d4d * 2 ^ 224 + amount.toNat) % 256 ^ 28 = amount.toNat := by omega
    rw [low]
    norm_num

theorem recoverWeth_attempts {amount : ℕ} (fits : message.callvalue.toNat < 2 ^ 224)
    (value : message.callvalue.toNat * 2 ^ 32 = amount) :
    (sandwich world message).Attempts (recoverWeth ++ behind) Machine.initial
      (recovered world message.caller amount = true) 0x2e []
      (recoverCalls world message.caller amount) := by
  obtain ⟨withdraw, send, last, run, withdrawn, sent⟩ : ∃ withdraw send last,
      (sandwich world message).block (recoverWeth ++ behind) Machine.initial
        = .branch ((sandwich world message).labelWord .exit)
            (boolWord (world.reply [withdraw, send]).success
              &&& boolWord (world.reply [withdraw]).success)
            ([.push 0x00, .dup 1, .revert] ++ behind) ⟨[], last, [withdraw, send]⟩
      ∧ withdraw = .call wethAddress 0
          (slice (mstore zero 0x00 (message.callvalue + withdrawSig)) 0 0x24)
      ∧ send = .call ((message.caller.setWidth 256).setWidth 160) (world.selfBalance [withdraw]) [] :=
    ⟨_, _, _, rfl, rfl, rfl⟩
  rw [slice_withdrawArguments fits, value] at withdrawn
  rw [setWidth_setWidth_address, withdrawn] at sent
  rw [withdrawn, sent, boolWord_and] at run
  exact exit_attempts boolWord_ne_zero run

/-- An authorised message with the label of the handler. -/
theorem recoverWeth_executes {amount : ℕ} (authorised : message.Authorised)
    (label : (message.data 1).toNat = 0x94) (fits : message.callvalue.toNat < 2 ^ 224)
    (value : message.callvalue.toNat * 2 ^ 32 = amount) :
    (sandwich world message).Executes
      ⟨if recovered world message.caller amount then .stop else .revert,
        recoverCalls world message.caller amount⟩ :=
  single_executes .recoverWeth authorised label fun _ => recoverWeth_attempts fits value

/-- A message without a second byte makes one call at most: to the searcher's messages it is a jump to
offset zero, where no label is, to all others it is a callback. -/
theorem short_executes (world : World) (message : Message) (short : (message.data 1).toNat = 0) :
    ∃ outcome, (sandwich world message).Executes outcome ∧ outcome.events.length ≤ 1 := by
  by_cases authorised : message.Authorised
  · obtain ⟨behind, entered⟩ := authorised_leads world authorised
    obtain ⟨label, jumps, value⟩ := entryPoint_block world message behind
    have misses : codeAt main label.toNat = none := by
      rw [value, short]
      rfl
    exact ⟨_, entered.ends (Ends.invalid jumps misses), Nat.zero_le _⟩
  · obtain ⟨halt, executes⟩ := callback_executes world message authorised
    refine ⟨_, executes, ?_⟩
    split
    · exact le_rfl
    · exact Nat.zero_le _

end Recover

end Sando.Huff
