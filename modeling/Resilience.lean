import Resilience.Audit.Entry
import Resilience.Breaker.Guarded
import Resilience.Breaker.Report
import Resilience.Errand
import Resilience.Executor.Description
import Resilience.Executor.Kit
import Resilience.Json.Printer
import Resilience.Proofs.Breaker.Probes
import Resilience.Proofs.EventLoop.Moves
import Resilience.Proofs.Executor.Story
import Resilience.Retry.Inline
import Resilience.Settings.Breaker
import Resilience.Settings.Retry
import Resilience.Proofs.Executor.Turns
import Resilience.Proofs.Counter.Places
import Resilience.Proofs.EventLoop.Settling
import Resilience.Proofs.Executor.Budget
import Resilience.Proofs.Executor.Calls
import Resilience.Proofs.Executor.Executing
import Resilience.Proofs.Executor.Vanished
import Resilience.Proofs.Counter.Chains
import Resilience.Proofs.Executor.Entries
import Resilience.Proofs.Executor.Bookkeeping
import Resilience.Proofs.Executor.Company
import Resilience.Proofs.RetryKey
import Resilience.Proofs.Counter.Sides
import Resilience.Proofs.Executor.InPlace
import Resilience.Proofs.Breaker.Log
import Resilience.Proofs.Breaker.Renewal
import Resilience.Proofs.Counter.Interchange
import Resilience.Proofs.Executor.Shutdown
import Resilience.Proofs.BreakerSettings
import Resilience.Proofs.Breaker.Traffic
import Resilience.Proofs.Executor.Results
import Resilience.Proofs.Executor.Composites
import Resilience.Proofs.Breaker.Coherence
import Resilience.Proofs.Counter.Failures
import Resilience.Proofs.Counter.Tenants
import Resilience.Proofs.KindLists
import Resilience.Proofs.Retry.Delays
import Resilience.Proofs.Retry.Bounds
import Resilience.Proofs.Settings.Decoding
import Resilience.Proofs.Counter.Sweeping
