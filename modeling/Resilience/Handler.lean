import Resilience.Compensation
import Resilience.Retry.Policy

/-!
# Handling failed attempts

A handler decides whether a failed attempt is followed by another one, and when, or the unit is
given up, possibly with a compensation.

## Main definitions

* `Handler` — a policy and a compensation
* `Decision` — retry after a delay, or give up
* `Handler.judge` — the decision on a failed attempt
-/

namespace Resilience

/-- What to do about failed attempts. -/
structure Handler where
  policy : RetryPolicy := {}
  compensation : Option Compensation := some .log

/-- The decision on a failed attempt. -/
inductive Decision where
  | retry (delay : Duration)
  | giveUp (compensation : Option Compensation)

namespace Handler

instance : Inhabited Handler := ⟨{}⟩

/-- A handler that never retries. -/
def givingUp (compensation : Option Compensation) : Handler := ⟨.noRetry, compensation⟩

/-- A handler that retries faults of some kinds only. -/
def onKinds (kinds : List FaultKind) (compensation : Option Compensation) : Handler :=
  ⟨.onKinds kinds, compensation⟩

/-- Retries while attempts are left and the fault is worth another one. -/
def judge (handler : Handler) (setback : Setback) (entropy : Entropy) : Decision × Entropy :=
  if handler.policy.hasAttemptsLeft setback.attempt && handler.policy.accepts setback.fault then
    let (delay, entropy) := handler.policy.delay setback.attempt entropy
    (.retry delay, entropy)
  else (.giveUp handler.compensation, entropy)

end Handler

end Resilience
