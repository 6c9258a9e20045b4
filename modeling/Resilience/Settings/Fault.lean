import Resilience.Binary64.Decimal
import Resilience.Failure

/-!
# Faults in settings

Settings that decode may still contradict themselves. Each fault names the setting it is about.

## Main definitions

* `SettingsFault` — the faults
* `SettingsFault.message`, `SettingsFault.failure` — a fault as a failure of configuration
-/

namespace Resilience

/-- What is wrong with settings. -/
inductive SettingsFault where
  | rateOutOfRange (rate : Binary64)
  | zeroCountThreshold
  | zeroPermittedCalls
  | zeroWindow
  | baseExceedsMax (base greatest : Nat)
  | multiplierTooSmall (multiplier : Binary64)
  | jitterOutOfRange (jitter : Binary64)
  deriving DecidableEq, Repr

namespace SettingsFault

def message : SettingsFault → String
  | rateOutOfRange rate =>
    "failureRateThreshold must be within 0.0..=1.0, got " ++ rate.text .plain
  | zeroCountThreshold => "failureCountThreshold must be at least 1"
  | zeroPermittedCalls => "permittedNumberOfCallsInHalfOpenState must be at least 1"
  | zeroWindow => "slidingWindowSize must be positive"
  | baseExceedsMax base greatest =>
    "baseDelay (" ++ toString base ++ "ms) exceeds maxDelay (" ++ toString greatest ++ "ms)"
  | multiplierTooSmall multiplier =>
    "backoffMultiplier must be at least 1.0, got " ++ multiplier.text .plain
  | jitterOutOfRange jitter =>
    "jitterFactor must be within 0.0..=1.0, got " ++ jitter.text .plain

/-- The fault as callers learn it. -/
def failure (fault : SettingsFault) : Failure := .configuration fault.message

end SettingsFault

/-- A duration in whole milliseconds as a 64-bit word, the greatest word if it does not fit. -/
def millisSetting (duration : Duration) : UInt64 :=
  (min duration.millis (2 ^ 64 - 1)).toUInt64

end Resilience
