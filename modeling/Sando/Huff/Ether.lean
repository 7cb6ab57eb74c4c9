/-
Where the ether of the contract goes.

The contract has a payable entry and jumps to bytes it is handed, with whatever is on the stack. Still,
its calls carry no ether, but for two: the deposit hands the call value to WETH, and the recovery hands
the balance to the caller. `etherPolicy` says so in terms of where the arguments of a call come from, and
`etherPolicy_checks` follows the whole code. `ether_goes_home` is the result, for every frame.
-/

import Sando.Evm.Provenance
import Sando.Huff.Callback

namespace Sando.Huff

open Sando.Evm Sando.Evm.Context

/-- Calls without ether, the deposit, and the recovery. Behind a jump nothing is known, but in the branch
of the callback that finds the target and the value of its call on the stack. -/
def etherPolicy : Policy where
  call target carried :=
    carried = .value 0 || (target = .value weth && carried = .callvalue)
      || (target = .caller && carried = .selfBalance)
  selfdestruct beneficiary := beneficiary = .caller
  entry offset := if offset = 0x275 then [.unknown, .value 0] else []

/-- That branch. -/
example : offsetOf main .isZeroForOne = 0x275 := by decide +kernel

/-- The code keeps to the policy behind every label. -/
theorem etherPolicy_checks : etherPolicy.checks main 0 main = true := by decide +kernel

theorem etherPolicy_follows : etherPolicy.follows main main [] = true := by decide +kernel

/-- The ether an event moves, behind others. -/
def EtherSafe (world : World) (message : Message) (before : List Event) : Event → Prop
  | .call target value _ => value = 0 ∨ message.Authorised
      ∧ (target = wethAddress ∧ value = message.callvalue
        ∨ target = message.caller ∧ value = world.selfBalance before)
  | .selfdestruct beneficiary => message.Authorised ∧ beneficiary = message.caller

section Ether

variable {world : World} {message : Message} {before : List Event} {event : Event}

theorem setWidth_caller (message : Message) :
    (message.caller.setWidth 256 : Word).setWidth 160 = message.caller := by
  exact BitVec.eq_of_toNat_eq (by simp)

/-- What the policy permits is safe in an authorised frame. -/
theorem etherSafe_of_permits (authorised : message.Authorised)
    (permits : Permits etherPolicy (sandwich world message) before event) :
    EtherSafe world message before event := by
  cases event with
  | call target value input =>
    obtain ⟨origin, carried, word, allowed, fits, rfl, same⟩ := permits
    simp only [etherPolicy, Bool.or_eq_true, Bool.and_eq_true, decide_eq_true_iff] at allowed
    rcases allowed with (rfl | ⟨rfl, rfl⟩) | ⟨rfl, rfl⟩
    · exact Or.inl same
    · obtain rfl : word = weth := fits
      exact Or.inr ⟨authorised, Or.inl ⟨rfl, same⟩⟩
    · obtain rfl : word = message.caller.setWidth 256 := fits
      exact Or.inr ⟨authorised, Or.inr ⟨setWidth_caller message, same⟩⟩
  | selfdestruct beneficiary =>
    obtain ⟨origin, word, allowed, fits, rfl⟩ := permits
    obtain rfl : origin = .caller := of_decide_eq_true allowed
    obtain rfl : word = message.caller.setWidth 256 := fits
    exact ⟨authorised, setWidth_caller message⟩

/-- A frame that is not authorised moves no ether. -/
theorem etherSafe_of_unauthorised {code : Code Label} {machine : Machine}
    (unauthorised : ¬ message.Authorised) (reached : Reaches (sandwich world message) code machine)
    (made : event ∈ ((sandwich world message).block code machine).machine.events) :
    EtherSafe world message before event := by
  obtain ⟨halt, executes⟩ := callback_executes world message unauthorised
  have listed := (reached.events_prefix executes).subset made
  split at listed
  · obtain rfl := List.mem_singleton.mp listed
    exact Or.inl rfl
  · exact absurd listed List.not_mem_nil

/-- Whoever calls the contract, with whatever calldata, and whatever the contracts it calls answer: in
every state that the frame reaches, and at the end of the frame, a call has carried no ether, or the
frame is authorised and the call has handed the call value to WETH or the whole balance to the caller.
The contract destroys itself in favour of the caller only, in an authorised frame. -/
theorem ether_goes_home (world : World) (message : Message) :
    (∀ code machine, Reaches (sandwich world message) code machine →
      ∀ before event after,
        ((sandwich world message).block code machine).machine.events = before ++ event :: after →
        EtherSafe world message before event)
    ∧ ∀ outcome, (sandwich world message).Executes outcome →
      ∀ before event after, outcome.events = before ++ event :: after →
        EtherSafe world message before event := by
  have reached (code : Code Label) (machine : Machine)
      (reached : Reaches (sandwich world message) code machine) (before : List Event) (event : Event)
      (after : List Event)
      (made : ((sandwich world message).block code machine).machine.events = before ++ event :: after) :
      EtherSafe world message before event := by
    by_cases authorised : message.Authorised
    · have permitted := reaches_permitted etherPolicy_checks etherPolicy_follows reached
      exact etherSafe_of_permits authorised (permitted before event after made)
    · refine etherSafe_of_unauthorised authorised reached ?_
      rw [made]
      exact List.mem_append_right _ List.mem_cons_self
  refine ⟨reached, fun outcome executes before event after made => ?_⟩
  obtain ⟨fuel, run⟩ := executes
  obtain ⟨final, last, arrived, same⟩ := Reaches.start.of_run run
  exact reached final last arrived before event after (same.trans made)

end Ether

end Sando.Huff
