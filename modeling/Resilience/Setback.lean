import Resilience.Duration
import Resilience.Fault
import Resilience.WorkUnit

/-!
# Failed attempts

What is known when an attempt has failed: the unit, the fault, the number of the attempt and the
number of attempts the policy allows.

## Main definitions

* `Setback` — a failed attempt
* `Setback.of` — numbers attempts from one
* `Setback.json` — a failed attempt as a document
-/

namespace Resilience

/-- A failed attempt on a unit. -/
structure Setback where
  unit : WorkUnit
  fault : Fault
  attempt : Nat
  maxAttempts : Nat
  failedAt : Instant
  deriving Inhabited

namespace Setback

/-- A failed attempt; the attempt before the first counts as the first. -/
def of (unit : WorkUnit) (fault : Fault) (attempt maxAttempts : Nat) (now : Instant) : Setback where
  unit
  fault
  attempt := max attempt 1
  maxAttempts
  failedAt := now

/-- Whether no attempt is left. -/
def isLast (setback : Setback) : Bool := setback.maxAttempts ≤ setback.attempt

/-- What is known, the payload by its length only and the time in milliseconds. -/
def json (setback : Setback) : Json :=
  .object [("attempt", .natural setback.attempt), ("max_attempts", .natural setback.maxAttempts),
    ("unit_id", .string setback.unit.id), ("action", .string setback.unit.action),
    ("source", .ofText? setback.unit.source),
    ("payload_len", .natural setback.unit.payload.size), ("key", .string setback.unit.retryKey),
    ("last", .bool setback.isLast), ("failure", setback.fault.json),
    ("failed_at", .natural (Duration.mk setback.failedAt).millis)]

end Setback

end Resilience
