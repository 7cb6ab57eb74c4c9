import Sando.Cfmm.Acceptance
import Sando.Cfmm.Quotes
import Sando.Cfmm.Scanning
import Sando.ForkedDb.ForkDb
import Sando.ForkedDb.Isolation
import Sando.ForkedDb.Retries
import Sando.ForkedDb.WakeUps
import Sando.Huff.Arbitrage
import Sando.Huff.Ether
import Sando.Huff.Guards
import Sando.RoundTrip.Amounts
import Sando.RoundTrip.MevHelper
import Sando.RoundTrip.Multi
import Sando.RoundTrip.Recover
import Sando.Runner.BaseFee
import Sando.Runner.Genuine
import Sando.Runner.Guarded
import Sando.Runner.Landing
import Sando.Runner.Oracles
import Sando.Runner.Slices
import Sando.Simulate.Alignment
import Sando.Simulate.Convergence
import Sando.Simulate.CreateOptimalSandwich
import Sando.Simulate.IsSandoSafu
import Sando.StateDiff.Preloading
import Sando.TxBuilder.Packing
