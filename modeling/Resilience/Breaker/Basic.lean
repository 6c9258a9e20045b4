import Resilience.Breaker.Circuit
import Resilience.Breaker.Config
import Resilience.Failure
import Resilience.Text.Record

/-!
# Circuit breakers

A breaker counts calls and failures in windows of time. Enough failures open the circuit, a wait
makes it half-open, and enough successful probes close it again. Every operation takes the current
instant and returns the changed breaker with the transition it made, if any.

Window counters are 32-bit words and wrap around; lifetime totals do not.

## Main definitions

* `Window` — the state of the circuit and the counters of the current window
* `Totals` — lifetime counters, which no reset clears
* `Breaker` — name, configuration, window and totals
* `Breaker.acquire` — asks for admission
* `Breaker.recordSuccess`, `recordFault`, `recordTimeout` — report the result of a call
* `Breaker.reset`, `force`, `startProbing` — manual control
-/

namespace Resilience

/-- The state of a circuit and the counters of its window. -/
structure Window where
  circuit : Circuit := .closed
  failures : UInt32 := 0
  /-- Successful probes while half-open. -/
  successes : UInt32 := 0
  calls : UInt32 := 0
  startedAt : Instant
  lastFailureAt : Option Instant := none
  deriving DecidableEq, Repr

namespace Window

/-- Enters a state: the counters start from zero and a window begins. -/
def enter (window : Window) (circuit : Circuit) (now : Instant) : Window :=
  { window with circuit, failures := 0, successes := 0, calls := 0, startedAt := now }

/-- Begins a new window once the current one has lasted longer than its size. -/
def roll (window : Window) (now : Instant) (size : Duration) : Window :=
  if size.nanos < now - window.startedAt then
    { window with calls := 0, failures := 0, startedAt := now }
  else window

/-- The share of failures among the calls of the window, and zero without calls. -/
def failureRate (window : Window) : Binary64 :=
  if window.calls = 0 then 0
  else Binary64.ofNat window.failures.toNat / Binary64.ofNat window.calls.toNat

/-- Whether the counters of a window open the circuit. -/
def trips (window : Window) (config : BreakerConfig) : Bool :=
  config.minimumCalls ≤ window.calls &&
    (config.rateThreshold.le window.failureRate || config.countThreshold ≤ window.failures)

end Window

/-- Lifetime counters of a breaker. -/
structure Totals where
  calls : Nat := 0
  successes : Nat := 0
  failures : Nat := 0
  timeouts : Nat := 0
  rejections : Nat := 0
  opened : Nat := 0
  closed : Nat := 0
  deriving DecidableEq, Repr, Inhabited

namespace Totals

def addSuccess (totals : Totals) : Totals :=
  { totals with calls := totals.calls + 1, successes := totals.successes + 1 }

def addFailure (totals : Totals) : Totals :=
  { totals with calls := totals.calls + 1, failures := totals.failures + 1 }

def addTimeout (totals : Totals) : Totals :=
  { totals with calls := totals.calls + 1, timeouts := totals.timeouts + 1 }

def addRejection (totals : Totals) : Totals := { totals with rejections := totals.rejections + 1 }

/-- Counts a transition into the open or the closed state. -/
def addTransition (totals : Totals) (circuit : Circuit) : Totals :=
  match circuit with
  | .opened => { totals with opened := totals.opened + 1 }
  | .closed => { totals with closed := totals.closed + 1 }
  | .halfOpen => totals

end Totals

/-- Why a call is not admitted. -/
inductive Denial where
  /-- The circuit may become half-open after a while. -/
  | waiting (remaining : Duration)
  /-- The wait is over, and the circuit becomes half-open by manual control only. -/
  | manual
  /-- The half-open circuit admits no more probes. -/
  | probesSpent
  deriving DecidableEq, Repr

/-- A denial as a hint for the caller. -/
def Denial.hint : Denial → String
  | waiting remaining => "Circuit may recover in " ++ remaining.text
  | manual => "Waiting for manual transition to half-open"
  | probesSpent => "Probe budget exhausted"

/-- A circuit breaker. -/
structure Breaker where
  name : String
  config : BreakerConfig
  window : Window
  totals : Totals := {}
  deriving DecidableEq, Repr

namespace Breaker

/-- A closed breaker that begins its first window at the given instant. -/
def start (name : String) (config : BreakerConfig) (now : Instant) : Breaker :=
  { name, config, window := { startedAt := now } }

def circuit (breaker : Breaker) : Circuit := breaker.window.circuit

/-- A breaker after an operation, with the transition the operation made. -/
structure Change where
  breaker : Breaker
  transition : Option Transition := none
  deriving DecidableEq, Repr

/-- Enters another state and counts the transition. -/
def move (breaker : Breaker) (circuit : Circuit) (now : Instant) : Change where
  breaker :=
    { breaker with
      window := breaker.window.enter circuit now
      totals := breaker.totals.addTransition circuit }
  transition := some ⟨breaker.name, breaker.circuit, circuit⟩

/-! ## Admission -/

/-- Whether the breaker admits a call now, and as what: `none` in the state it is in, `some` state
that the admission enters. -/
def admission (breaker : Breaker) (now : Instant) : Except Denial (Option Circuit) :=
  match breaker.circuit with
  | .closed => .ok none
  | .opened =>
    -- an open circuit is entered with a last failure, so that the start of its window is not
    -- needed
    let openedAt := breaker.window.lastFailureAt.getD breaker.window.startedAt
    let elapsed := now - openedAt
    let wait := breaker.config.openWait.nanos
    if wait ≤ elapsed then
      if breaker.config.automaticProbing then .ok (some .halfOpen) else .error .manual
    else .error (.waiting ⟨wait - elapsed⟩)
  | .halfOpen =>
    -- the success that takes the last permitted probe closes the circuit, so some are left here
    -- unless none is permitted at all
    if breaker.window.successes < breaker.config.permittedProbes then .ok none
    else .error .probesSpent

/-- Asks for admission. A denied request is counted. -/
def acquire (breaker : Breaker) (now : Instant) : Except Denial Unit × Change :=
  match breaker.admission now with
  | .ok none => (.ok (), { breaker })
  | .ok (some circuit) => (.ok (), breaker.move circuit now)
  | .error denial =>
    (.error denial, { breaker := { breaker with totals := breaker.totals.addRejection } })

/-- A denial as the caller learns it. -/
def denied (breaker : Breaker) (denial : Denial) : Failure :=
  .circuitOpen breaker.name (some denial.hint)

/-! ## Results of calls -/

/-- Reports a successful call. While the circuit is open the result is late and only the totals
change. -/
def recordSuccess (breaker : Breaker) (now : Instant) : Change :=
  let breaker := { breaker with totals := breaker.totals.addSuccess }
  match breaker.circuit with
  | .closed =>
    let window := breaker.window.roll now breaker.config.windowSize
    let window := { window with calls := window.calls + 1, failures := 0 }
    { breaker := { breaker with window } }
  | .halfOpen =>
    let successes := breaker.window.successes + 1
    if breaker.config.permittedProbes ≤ successes then breaker.move .closed now
    else { breaker := { breaker with window := { breaker.window with successes } } }
  | .opened => { breaker }

/-- What a counted failure or a timeout does to the window. -/
def countFailure (breaker : Breaker) (now : Instant) : Change :=
  match breaker.circuit with
  | .closed =>
    let window := breaker.window.roll now breaker.config.windowSize
    let window :=
      { window with
        calls := window.calls + 1, failures := window.failures + 1, lastFailureAt := some now }
    let breaker := { breaker with window }
    if window.trips breaker.config then breaker.move .opened now else { breaker }
  | .halfOpen =>
    { breaker with window := { breaker.window with lastFailureAt := some now } }.move .opened now
  | .opened => { breaker }

/-- Reports a fault; one that the filter does not count leaves no trace. -/
def recordFault (breaker : Breaker) (fault : Fault) (now : Instant) : Change :=
  if breaker.config.filter.counts fault then
    { breaker with totals := breaker.totals.addFailure }.countFailure now
  else { breaker }

/-- Reports a call that did not end in time. -/
def recordTimeout (breaker : Breaker) (now : Instant) : Change :=
  { breaker with totals := breaker.totals.addTimeout }.countFailure now

/-! ## Manual control -/

/-- Closes the circuit with a fresh window. Totals stay as they are, and the transition is not
counted among them. -/
def reset (breaker : Breaker) (now : Instant) : Change where
  breaker := { breaker with window := { startedAt := now } }
  transition :=
    if breaker.circuit = .closed then none else some ⟨breaker.name, breaker.circuit, .closed⟩

/-- Enters a state whatever the current one is. Forcing the current state restarts its window and
is no transition. -/
def force (breaker : Breaker) (circuit : Circuit) (now : Instant) : Change :=
  let window := breaker.window.enter circuit now
  let window := if circuit = .opened then { window with lastFailureAt := some now } else window
  if breaker.circuit = circuit then { breaker := { breaker with window } }
  else
    { breaker := { breaker with window, totals := breaker.totals.addTransition circuit }
      transition := some ⟨breaker.name, breaker.circuit, circuit⟩ }

/-- Makes an open circuit half-open at once. -/
def startProbing (breaker : Breaker) (now : Instant) : Change :=
  if breaker.circuit = .opened then breaker.move .halfOpen now else { breaker }

/-- The breaker as a record. -/
def description (breaker : Breaker) : String :=
  Text.record "CircuitBreaker"
    [("name", Text.quoted breaker.name), ("state", breaker.circuit.description),
     ("config", breaker.config.description)]

end Breaker

end Resilience
