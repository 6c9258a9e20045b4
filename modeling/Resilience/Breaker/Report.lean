import Resilience.Breaker.Basic

/-!
# Reports on circuit breakers

A report is a snapshot of a breaker's state, its lifetime totals and its current window.

## Main definitions

* `BreakerReport` — the snapshot
* `Breaker.report` — the snapshot of a breaker
* `BreakerReport.successRate`, `BreakerReport.failureRate` — lifetime rates
* `BreakerReport.json`, `BreakerReport.decode` — the snapshot as a document
-/

namespace Resilience

/-- A snapshot of a breaker. -/
structure BreakerReport where
  name : String := ""
  circuit : Circuit := .closed
  totals : Totals := {}
  windowCalls : UInt32 := 0
  windowFailures : UInt32 := 0
  windowFailureRate : Binary64 := 0
  deriving DecidableEq, Repr

/-- The snapshot of a breaker. -/
def Breaker.report (breaker : Breaker) : BreakerReport where
  name := breaker.name
  circuit := breaker.circuit
  totals := breaker.totals
  windowCalls := breaker.window.calls
  windowFailures := breaker.window.failures
  windowFailureRate := breaker.window.failureRate

/-- The state and the counters of the window. -/
def Breaker.standing (breaker : Breaker) : Json :=
  .array [breaker.circuit.json, .natural breaker.window.calls.toNat,
    .natural breaker.window.failures.toNat]

namespace BreakerReport

/-- The share of successes among all calls, and one without calls. -/
def successRate (report : BreakerReport) : Binary64 :=
  if report.totals.calls = 0 then 1
  else Binary64.ofNat report.totals.successes / Binary64.ofNat report.totals.calls

/-- The share of failures and timeouts among all calls, and zero without calls. Their sum is a
64-bit word. -/
def failureRate (report : BreakerReport) : Binary64 :=
  if report.totals.calls = 0 then 0
  else
    Binary64.ofNat ((report.totals.failures + report.totals.timeouts) % 2 ^ 64) /
      Binary64.ofNat report.totals.calls

/-- The fields of the snapshot and the two rates. -/
def json (report : BreakerReport) : Json :=
  .object [("name", .string report.name), ("state", report.circuit.json),
    ("total_calls", .natural report.totals.calls),
    ("successful_calls", .natural report.totals.successes),
    ("failed_calls", .natural report.totals.failures),
    ("timeout_calls", .natural report.totals.timeouts),
    ("rejected_calls", .natural report.totals.rejections),
    ("times_opened", .natural report.totals.opened),
    ("times_closed", .natural report.totals.closed),
    ("calls_in_window", .natural report.windowCalls.toNat),
    ("failures_in_window", .natural report.windowFailures.toNat),
    ("window_failure_rate", .float report.windowFailureRate),
    ("success_rate", .float report.successRate), ("failure_rate", .float report.failureRate)]

/-- A field of the totals. -/
def totalField (name : String) (set : Totals → Nat → Totals) : Field BreakerReport :=
  .of name (Decoder.natural (2 ^ 64 - 1)) fun report count =>
    { report with totals := set report.totals count }

/-- The fields a report is decoded from. -/
def fields : List (Field BreakerReport) :=
  [.of "name" Decoder.string fun report name => { report with name },
   .of "state" Circuit.decode fun report circuit => { report with circuit },
   totalField "total_calls" fun totals calls => { totals with calls },
   totalField "successful_calls" fun totals successes => { totals with successes },
   totalField "failed_calls" fun totals failures => { totals with failures },
   totalField "timeout_calls" fun totals timeouts => { totals with timeouts },
   totalField "rejected_calls" fun totals rejections => { totals with rejections },
   totalField "times_opened" fun totals opened => { totals with opened },
   totalField "times_closed" fun totals closed => { totals with closed },
   .of "calls_in_window" Decoder.word32 fun report windowCalls => { report with windowCalls },
   .of "failures_in_window" Decoder.word32 fun report windowFailures =>
     { report with windowFailures },
   .of "window_failure_rate" Decoder.number fun report windowFailureRate =>
     { report with windowFailureRate }]

def decode : Decoder BreakerReport := decodeRecord ⟨false, false⟩ fields {}

end BreakerReport

end Resilience
