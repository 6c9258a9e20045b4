import Resilience.Binary64.Decimal
import Resilience.Duration
import Resilience.Fault
import Resilience.Text.Record

/-!
# Configuration of circuit breakers

Thresholds and times of a breaker, and the filter that decides which faults count as failures. The
setters keep rates between zero and one, and counts that must be positive at least one.

## Main definitions

* `FaultFilter` — kinds that are ignored and kinds that are recorded
* `FaultFilter.counts` — whether a fault counts as a failure
* `BreakerConfig` — thresholds, times and the filter
* `BreakerConfig.strict`, `BreakerConfig.highAvailability` — preset configurations
-/

namespace Resilience

/-- Which faults count as failures. -/
structure FaultFilter where
  /-- Kinds that never count. -/
  ignored : List FaultKind := []
  /-- Kinds that count; without any, every kind does. -/
  recorded : List FaultKind := []
  deriving DecidableEq, Repr, Inhabited

namespace FaultFilter

/-- Counts faults from the network only. -/
def networkOnly : FaultFilter := { recorded := FaultKind.network }

/-- Whether a fault counts as a failure; an ignored kind takes precedence. -/
def counts (filter : FaultFilter) (fault : Fault) : Bool :=
  !fault.involvesAny filter.ignored &&
    (filter.recorded.isEmpty || fault.involvesAny filter.recorded)

/-- The filter as a record. -/
def description (filter : FaultFilter) : String :=
  Text.record "FailurePolicy"
    [("ignore", Text.bracketed (filter.ignored.map FaultKind.description)),
     ("record", Text.bracketed (filter.recorded.map FaultKind.description))]

end FaultFilter

/-- Thresholds and times of a circuit breaker. -/
structure BreakerConfig where
  /-- The share of failures in a window that opens the circuit. -/
  rateThreshold : Binary64 := 0.5
  /-- The number of failures in a window that opens the circuit. -/
  countThreshold : UInt32 := 5
  /-- The number of calls in a window below which the circuit stays closed. -/
  minimumCalls : UInt32 := 5
  /-- How long a window lasts. -/
  windowSize : Duration := .ofSeconds 60
  /-- How long the circuit stays open before it admits probes. -/
  openWait : Duration := .ofSeconds 30
  /-- The number of successful probes that close the circuit. -/
  permittedProbes : UInt32 := 3
  /-- How long a guarded call may take. -/
  callTimeout : Duration := .ofSeconds 10
  /-- Whether an admission request after the wait starts probing. -/
  automaticProbing : Bool := true
  filter : FaultFilter := {}
  deriving DecidableEq, Repr, Inhabited

namespace BreakerConfig

/-- A breaker that opens early and closes late. -/
def strict : BreakerConfig :=
  { rateThreshold := 0.25, countThreshold := 3, minimumCalls := 3, openWait := .ofSeconds 60,
    permittedProbes := 5 }

/-- A breaker that opens late and closes early. -/
def highAvailability : BreakerConfig :=
  { rateThreshold := 0.75, countThreshold := 20, minimumCalls := 10, openWait := .ofSeconds 10,
    permittedProbes := 2 }

/-- The preset of a name. -/
def preset? : String → Option BreakerConfig
  | "default" => some {}
  | "strict" => some strict
  | "high_availability" => some highAvailability
  | _ => none

def withRateThreshold (config : BreakerConfig) (rate : Binary64) : BreakerConfig :=
  { config with rateThreshold := rate.clamp 0 1 }

def withCountThreshold (config : BreakerConfig) (count : UInt32) : BreakerConfig :=
  { config with countThreshold := max count 1 }

def withPermittedProbes (config : BreakerConfig) (count : UInt32) : BreakerConfig :=
  { config with permittedProbes := max count 1 }

/-- Adds kinds that never count. -/
def ignoring (config : BreakerConfig) (kinds : List FaultKind) : BreakerConfig :=
  { config with filter := { config.filter with ignored := config.filter.ignored ++ kinds } }

/-- Adds kinds that count. -/
def recording (config : BreakerConfig) (kinds : List FaultKind) : BreakerConfig :=
  { config with filter := { config.filter with recorded := config.filter.recorded ++ kinds } }

/-- The configuration as a record. -/
def description (config : BreakerConfig) : String :=
  Text.record "CircuitBreakerConfig"
    [("failure_rate_threshold", config.rateThreshold.text .literal),
     ("failure_count_threshold", toString config.countThreshold.toNat),
     ("minimum_number_of_calls", toString config.minimumCalls.toNat),
     ("sliding_window_size", config.windowSize.text),
     ("wait_duration_in_open_state", config.openWait.text),
     ("permitted_calls_in_half_open_state", toString config.permittedProbes.toNat),
     ("timeout_duration", config.callTimeout.text),
     ("automatic_transition_from_open_to_half_open", toString config.automaticProbing),
     ("failure_policy", config.filter.description)]

/-- The fields of the configuration. -/
def json (config : BreakerConfig) : Json :=
  .object [("failure_rate_threshold", .float config.rateThreshold),
    ("failure_count_threshold", .natural config.countThreshold.toNat),
    ("minimum_number_of_calls", .natural config.minimumCalls.toNat),
    ("sliding_window_size", config.windowSize.json),
    ("wait_duration_in_open_state", config.openWait.json),
    ("permitted_calls_in_half_open_state", .natural config.permittedProbes.toNat),
    ("timeout_duration", config.callTimeout.json),
    ("automatic_transition", .bool config.automaticProbing),
    ("ignore", FaultKind.listJson config.filter.ignored),
    ("record", FaultKind.listJson config.filter.recorded)]

end BreakerConfig

end Resilience
