import Resilience.Executor.Lifecycle

/-!
# Building executors

A kit holds what a family of executors shares: the counter, the scheduler, the compensation, and
possibly a source and a breaker. Executors of a kit differ in their operation and policy.

## Main definitions

* `ExecutorKit` — the shared parts
* `ExecutorKit.standard`, `fast`, `conservative`, `noRetry`, `networkOnly` — preset executors
* `ExecutorKit.custom` — an executor with a policy and a compensation of its own
* `ExecutorKit.close` — shuts the scheduler down and closes the counter
-/

namespace Resilience

/-- What a family of executors shares. -/
structure ExecutorKit where
  counter : Counter
  scheduler : Nat := 0
  compensation : Compensation := .log
  source : Option Nat := none
  breaker : Option Nat := none
  deriving Inhabited

namespace ExecutorKit

/-- An executor with a policy and a compensation of its own. -/
def custom (kit : ExecutorKit) (operation : Nat) (policy : RetryPolicy)
    (compensation : Compensation) : Executor where
  operation
  counter := kit.counter
  handler := ⟨policy, some compensation⟩
  scheduler := kit.scheduler
  source := kit.source
  breaker := kit.breaker

/-- An executor with a policy of its own and the compensation of the kit. -/
def withPolicy (kit : ExecutorKit) (operation : Nat) (policy : RetryPolicy) : Executor :=
  kit.custom operation policy kit.compensation

def standard (kit : ExecutorKit) (operation : Nat) : Executor := kit.withPolicy operation {}

def fast (kit : ExecutorKit) (operation : Nat) : Executor := kit.withPolicy operation .fast

def conservative (kit : ExecutorKit) (operation : Nat) : Executor :=
  kit.withPolicy operation .conservative

def noRetry (kit : ExecutorKit) (operation : Nat) : Executor := kit.withPolicy operation .noRetry

def networkOnly (kit : ExecutorKit) (operation : Nat) : Executor :=
  kit.withPolicy operation .networkOnly

/-- The preset executor of a name. -/
def preset? (kit : ExecutorKit) (operation : Nat) : String → Option Executor
  | "standard" => some (kit.standard operation)
  | "fast" => some (kit.fast operation)
  | "conservative" => some (kit.conservative operation)
  | "no_retry" => some (kit.noRetry operation)
  | "network_errors_only" => some (kit.networkOnly operation)
  | _ => none

/-- Shuts the scheduler down and closes the counter. -/
def close (kit : ExecutorKit) (run : Universe) : Except Failure Unit × Universe :=
  let run := World.shutDown kit.scheduler run
  let (answer, world) := run.state.askCounter run.loop.now kit.counter.close
  (answer, { run with state := world })

end ExecutorKit

end Resilience
