import Resilience.Retry.Policy

/-!
# Retrying in place

A loop that runs an operation, waits and runs it again until it succeeds or the policy gives up.
Attempts are numbered from one.

## Main definitions

* `Invocation` — what an attempt takes and what it comes to
* `RetryRun` — the attempts of a loop with their times, its end and its result
* `retryInPlace` — the loop
-/

namespace Resilience

/-- What one invocation takes and what it comes to. -/
structure Invocation (α : Type) where
  latency : Duration
  outcome : Except Fault α

/-- A finished loop. -/
structure RetryRun (α : Type) where
  /-- Attempt numbers with the times at which the attempts started. -/
  tries : List (Nat × Nat)
  /-- The time at which the loop ended. -/
  finish : Nat
  result : Except Fault α

/-- Runs attempts from the given one on, the first of them at time `now`. Every further attempt
uses up one of those the policy leaves. -/
def retryFrom {α : Type} (policy : RetryPolicy) (operation : Nat → Invocation α) (attempt now : Nat)
    (entropy : Entropy) : RetryRun α :=
  let invocation := operation attempt
  let ended := now + invocation.latency.waitMillis
  match invocation.outcome with
  | .ok value => ⟨[(attempt, now)], ended, .ok value⟩
  | .error fault =>
    if _h : attempt < policy.maxAttempts.toNat then
      if policy.accepts fault then
        let (delay, entropy) := policy.delay attempt entropy
        let rest := retryFrom policy operation (attempt + 1) (ended + delay.waitMillis) entropy
        { rest with tries := (attempt, now) :: rest.tries }
      else ⟨[(attempt, now)], ended, .error fault⟩
    else ⟨[(attempt, now)], ended, .error fault⟩
  termination_by policy.maxAttempts.toNat - attempt

/-- Runs an operation until it succeeds or the policy gives up, starting at time zero. -/
def retryInPlace {α : Type} (policy : RetryPolicy) (operation : Nat → Invocation α)
    (entropy : Entropy) : RetryRun α :=
  retryFrom policy operation 1 0 entropy

end Resilience
