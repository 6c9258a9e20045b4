import Resilience.Breaker.Circuit
import Resilience.Counter.Basic
import Resilience.Setback

/-!
# Audit events

What happens to circuits, counters and units of work is reported as events with a level, a message
and fields. Optional fields show their value as a description.

## Main definitions

* `AuditEvent` — the events
* `AuditEvent.level`, `title`, `kind`, `details` — the parts of a report
* `AuditEvent.json` — a report
-/

namespace Resilience

/-- An event worth reporting. -/
inductive AuditEvent where
  | circuitChanged (transition : Transition)
  | counterFellBack (fallback : Fallback)
  | retryScheduled (setback : Setback) (delay : Duration)
  | gaveUp (setback : Setback) (compensation : Option String)
  | compensationFailed (setback : Setback) (action : String) (failure : Failure)
  | unitAbandoned (unit : WorkUnit) (attempt : Nat) (reason : String)

/-- The urgency of a report. -/
inductive AuditLevel where
  | info
  | warn
  | error
  deriving DecidableEq, Repr

def AuditLevel.name : AuditLevel → String
  | info => "INFO"
  | warn => "WARN"
  | error => "ERROR"

namespace AuditEvent

def level : AuditEvent → AuditLevel
  | circuitChanged transition => if transition.after = .opened then .warn else .info
  | counterFellBack _ | gaveUp .. => .warn
  | compensationFailed .. => .error
  | retryScheduled .. | unitAbandoned .. => .info

def title : AuditEvent → String
  | circuitChanged transition =>
    if transition.after = .opened then "Circuit breaker opened" else "Circuit breaker state changed"
  | counterFellBack _ => "Shared retry counter failed, using local counter"
  | retryScheduled .. => "Retry scheduled"
  | gaveUp .. => "Giving up on unit"
  | compensationFailed .. => "Compensation action failed"
  | unitAbandoned .. => "Unit abandoned"

def kind : AuditEvent → String
  | circuitChanged _ => "circuit_state_transition"
  | counterFellBack _ => "counter_fallback"
  | retryScheduled .. => "retry_scheduled"
  | gaveUp .. => "gave_up"
  | compensationFailed .. => "compensation_failed"
  | unitAbandoned .. => "unit_abandoned"

/-- The fields that name a unit and an attempt. -/
def unitDetails (unit : WorkUnit) (attempt : Nat) : List (String × Json) :=
  [("unit_id", .string unit.id), ("action", .string unit.action),
   ("source", .string (Text.quotedOption unit.source)), ("attempt", .natural attempt)]

/-- The fields that name the fault of a failed attempt. -/
def faultDetails (fault : Fault) : List (String × Json) :=
  [("error_kind", .string (Text.quotedOption (some fault.kind.name))),
   ("error", .string (Text.quotedOption (some fault.message)))]

/-- A delay in whole milliseconds as a 64-bit word. -/
def delayMillis (delay : Duration) : Nat := delay.millis % 2 ^ 64

/-- The fields of a report besides its level, message and type. -/
def details : AuditEvent → List (String × Json)
  | circuitChanged transition =>
    [("breaker", .string transition.breaker), ("from", .string transition.before.name),
     ("to", .string transition.after.name)]
  | counterFellBack fallback =>
    [("key", .string fallback.key), ("operation", .string fallback.operation),
     ("backend", .string fallback.backend), ("error", .string fallback.failure.message)]
  | retryScheduled setback delay =>
    unitDetails setback.unit setback.attempt ++
      [("max_attempts", .natural setback.maxAttempts),
       ("delay_ms", .natural (delayMillis delay))] ++
      faultDetails setback.fault
  | gaveUp setback compensation =>
    unitDetails setback.unit setback.attempt ++
      [("max_attempts", .natural setback.maxAttempts),
       ("compensation", .string (Text.quotedOption compensation))] ++
      faultDetails setback.fault
  | compensationFailed setback action failure =>
    unitDetails setback.unit setback.attempt ++
      [("compensation", .string action), ("error", .string failure.message)]
  | unitAbandoned unit attempt reason =>
    unitDetails unit attempt ++ [("reason", .string reason)]

/-- A report. -/
def json (event : AuditEvent) : Json :=
  .object ([("level", .string event.level.name), ("message", .string event.title),
    ("event_type", .string event.kind)] ++ event.details)

end AuditEvent

end Resilience
