import Resilience.Binary64.Decimal
import Resilience.Duration
import Resilience.Entropy
import Resilience.Retry.Backoff
import Resilience.Retry.Rule
import Resilience.Text.Record

/-!
# Retry policies

A policy tells how many attempts a unit has, which faults are worth another attempt and how long to
wait before it. Delays are computed in binary64 milliseconds and then truncated to whole ones.

## Main definitions

* `RetryPolicy` — attempts, delays and the rule on faults
* `RetryPolicy.delay` — the delay after an attempt
* `RetryPolicy.hasAttemptsLeft`, `RetryPolicy.accepts` — the two conditions of a retry
* `RetryPolicy.fast`, `conservative`, `noRetry`, … — preset policies
* `RetryPolicy.json` — a policy as a document
-/

namespace Resilience

/-- When and how to try again. -/
structure RetryPolicy where
  maxAttempts : UInt32 := 3
  baseDelay : Duration := .ofSeconds 1
  maxDelay : Duration := .ofSeconds 30
  multiplier : Binary64 := 2
  strategy : Backoff := .exponential
  jitter : Binary64 := 0.1
  rule : RetryRule := .always

namespace RetryPolicy

instance : Inhabited RetryPolicy := ⟨{}⟩

/-! ## Presets and setters -/

def noRetry : RetryPolicy := { maxAttempts := 0, rule := .never }

def fast : RetryPolicy :=
  { maxAttempts := 5, baseDelay := .ofMillis 100, maxDelay := .ofSeconds 5 }

def conservative : RetryPolicy :=
  { maxAttempts := 2, baseDelay := .ofSeconds 5, maxDelay := .ofSeconds 60 }

/-- Retries faults from the network only. -/
def networkOnly : RetryPolicy := { rule := .network }

/-- Retries faults of some kinds only. -/
def onKinds (kinds : List FaultKind) : RetryPolicy := { rule := .onKinds kinds }

/-- Retries faults of all but some kinds. -/
def exceptKinds (kinds : List FaultKind) : RetryPolicy := { rule := .exceptKinds kinds }

/-- The preset of a name. -/
def preset? : String → Option RetryPolicy
  | "default" => some {}
  | "no_retry" => some noRetry
  | "fast" => some fast
  | "conservative" => some conservative
  | "network_errors_only" => some networkOnly
  | _ => none

/-- Sets the multiplier to a number that is at least one. -/
def withMultiplier (policy : RetryPolicy) (multiplier : Binary64) : RetryPolicy :=
  { policy with multiplier := multiplier.maximum 1 }

/-- Sets the jitter factor to a number between zero and one. -/
def withJitter (policy : RetryPolicy) (jitter : Binary64) : RetryPolicy :=
  { policy with jitter := jitter.clamp 0 1 }

/-! ## Delays -/

/-- The greatest exponent of the multiplier. -/
def exponentLimit : Nat := 2 ^ 31 - 1

/-- The base delay times a power of the multiplier, in milliseconds. -/
def exponentialMillis (policy : RetryPolicy) (base : Binary64) (attempt : Nat) : Binary64 :=
  base * policy.multiplier.pow (min (attempt - 1) exponentLimit)

/-- The delay in milliseconds before it is capped for the last time. -/
def rawMillis (policy : RetryPolicy) (base greatest : Binary64) (attempt : Nat)
    (entropy : Entropy) : Binary64 × Entropy :=
  match policy.strategy with
  | .fixed => (base, entropy)
  | .linear => (base * Binary64.ofNat attempt, entropy)
  | .exponential => (policy.exponentialMillis base attempt, entropy)
  | .exponentialJitter =>
    let exponential := (policy.exponentialMillis base attempt).minimum greatest
    -- a shifted delay may lie above the greatest one again, so it is capped once more at the end
    if Binary64.lt 0 policy.jitter then
      let (shift, entropy) := entropy.between (-policy.jitter) policy.jitter
      (exponential * (1 + shift), entropy)
    else (exponential, entropy)
  | .random =>
    if greatest.le base then (base, entropy) else entropy.between base greatest

/-- The delay after an attempt; the attempt before the first counts as the first. -/
def delay (policy : RetryPolicy) (attempt : Nat) (entropy : Entropy) : Duration × Entropy :=
  let base := Binary64.ofNat policy.baseDelay.millis
  let greatest := Binary64.ofNat policy.maxDelay.millis
  let (raw, entropy) := policy.rawMillis base greatest (max attempt 1) entropy
  let capped := if policy.strategy.isBounded then raw.minimum greatest else raw
  -- what is negative or not a number is no delay at all
  (Duration.ofMillis (capped.maximum 0).toWord64, entropy)

/-- The delays after several attempts, one after the other. -/
def delays (policy : RetryPolicy) : List Nat → Entropy → List Duration × Entropy
  | [], entropy => ([], entropy)
  | attempt :: rest, entropy =>
    let (delay, entropy) := policy.delay attempt entropy
    let (others, entropy) := policy.delays rest entropy
    (delay :: others, entropy)

/-! ## Conditions of a retry -/

/-- Whether another attempt is left after the given one. -/
def hasAttemptsLeft (policy : RetryPolicy) (attempt : Nat) : Bool :=
  attempt < policy.maxAttempts.toNat

/-- Whether a fault is worth another attempt. -/
def accepts (policy : RetryPolicy) (fault : Fault) : Bool := policy.rule.accepts fault

/-- Whether the delays of the policy lie in a range instead of at a point. -/
def spreadsDelays (policy : RetryPolicy) : Bool :=
  match policy.strategy with
  | .exponentialJitter => Binary64.lt 0 policy.jitter
  | .random => policy.baseDelay < policy.maxDelay
  | _ => false

/-- The policy as a record. -/
def description (policy : RetryPolicy) : String :=
  Text.record "RetryPolicy"
    [("max_attempts", toString policy.maxAttempts.toNat),
     ("base_delay", policy.baseDelay.text),
     ("max_delay", policy.maxDelay.text),
     ("backoff_multiplier", policy.multiplier.text .literal),
     ("strategy", policy.strategy.description),
     ("jitter_factor", policy.jitter.text .literal),
     ("retry_condition", policy.rule.record)]

/-- The fields of the policy, the rule in words. -/
def json (policy : RetryPolicy) : Json :=
  .object [("max_attempts", .natural policy.maxAttempts.toNat),
    ("base_delay", policy.baseDelay.json), ("max_delay", policy.maxDelay.json),
    ("backoff_multiplier", .float policy.multiplier), ("strategy", policy.strategy.json),
    ("jitter_factor", .float policy.jitter),
    ("retry_condition", .string policy.rule.description)]

end RetryPolicy

end Resilience
