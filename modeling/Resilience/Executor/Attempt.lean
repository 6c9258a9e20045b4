import Resilience.Executor.World

/-!
# Attempts

An attempt on a unit has two halves, with the operation's latency between them. The first half
makes sure that a unit to be retried is still pending, asks the breaker for admission and invokes
the operation. The second half takes the operation's outcome, reports it to the breaker and the
counter, and ends the work or decides on another attempt.

The number of an attempt is what the counter says; only if the counter fails, it is one more than
the number handed over from the attempt before.

## Main definitions

* `Executor.beginAttempt` — the first half
* `Executor.endAttempt` — the second half
-/

namespace Resilience

/-- What the first half of an attempt comes to. -/
inductive Begun where
  /-- The work has ended without an invocation. -/
  | ended (result : Except Failure Completion)
  /-- The operation is under way. -/
  | running (response : Response)

namespace Executor

/-- The greatest number of an attempt. -/
def greatestAttempt : Nat := 2 ^ 32 - 1

/-- The number after that of an attempt. -/
def nextAttempt (prior : Nat) : Nat := min (prior + 1) greatestAttempt

/-- Removes the count of a unit. A counter that fails keeps it. -/
def resetCount (executor : Executor) (unit : WorkUnit) (now : Nat) (world : World) : World :=
  (world.askCounter now (executor.counter.reset unit.retryKey (Instant.ofMillis now))).2

/-- Ends the work on a unit that has gone. -/
def abandon (executor : Executor) (unit : WorkUnit) (attempts : Nat) (reason : String) (now : Nat)
    (world : World) : Completion × World :=
  let world := executor.resetCount unit now world
  (.abandoned attempts, world.audit now (.unitAbandoned unit attempts reason))

/-- Whether the source still has a unit. A source that cannot tell is taken to have it. -/
def isStillPending (executor : Executor) (unit : WorkUnit) (now : Nat) (world : World) :
    Bool × World :=
  match executor.source with
  | none => (true, world)
  | some id =>
    let (answer, world) :=
      world.askSource now id .isPending unit fun source => (source.isPending unit.id, source)
    match answer with
    | .ok pending => (pending, world)
    | .error _ => (true, world)

/-- Tells the source that a unit is finished. A source that fails goes without. -/
def acknowledge (executor : Executor) (unit : WorkUnit) (now : Nat) (world : World) : World :=
  match executor.source with
  | none => world
  | some id => (world.askSource now id .acknowledge unit (·.acknowledge unit.id)).2

/-- Asks for admission and invokes the operation. -/
def invoke (executor : Executor) (unit : WorkUnit) (now : Nat) (world : World) : Begun × World :=
  let (admission, world) := world.acquire now executor.breaker
  match admission with
  | .error failure => (.ended (.error failure), world)
  | .ok () =>
    let (response, operation) := (world.operation executor.operation).invoke unit now
    let world := world.setOperation executor.operation operation
    (.running response, world.record now (.invoked executor.operation unit))

/-- The first half of an attempt. The number handed over from the attempt before is zero for a
first attempt; a unit is retried only while it is pending. -/
def beginAttempt (executor : Executor) (unit : WorkUnit) (prior now : Nat) (world : World) :
    Begun × World :=
  if prior = 0 then executor.invoke unit now world
  else
    let (pending, world) := executor.isStillPending unit now world
    if pending then executor.invoke unit now world
    else
      let (completion, world) := executor.abandon unit prior "unit left its source" now world
      (.ended (.ok completion), world)

/-- Ends the work on a unit that was processed. -/
def complete (executor : Executor) (unit : WorkUnit) (attempts now : Nat) (world : World) :
    Completion × World :=
  let world := world.changeBreaker now executor.breaker (·.recordSuccess (Instant.ofMillis now))
  let world := executor.resetCount unit now world
  (.completed attempts, executor.acknowledge unit now world)

/-- Gives a unit up: the count is removed first, and a compensation runs if there is one. -/
def giveUp (executor : Executor) (unit : WorkUnit) (setback : Setback) (attempts : Nat)
    (compensation : Option Compensation) (now : Nat) (world : World) :
    Except Failure Completion × World :=
  let world := executor.resetCount unit now world
  let world := world.audit now (.gaveUp setback (compensation.map (·.name)))
  let failed : Except Failure Completion :=
    .error (.exhausted unit.action attempts setback.fault)
  match compensation with
  | none => (failed, world)
  | some compensation =>
    let (verdict, world) := world.compensate now compensation setback
    match verdict with
    | .ok .recovered => (.ok (.recovered attempts), world)
    | .ok .propagate => (failed, world)
    -- the caller learns of the fault, and only the journal of the failure to make up for it
    | .error failure =>
      (failed, world.audit now (.compensationFailed setback compensation.name failure))

/-- Counts a failed attempt and takes its number from the count. -/
def countAttempt (executor : Executor) (unit : WorkUnit) (prior now : Nat) (world : World) :
    Nat × World :=
  let (answer, world) :=
    world.askCounter now (executor.counter.increment unit.retryKey (Instant.ofMillis now))
  match answer with
  | .ok count => (min count greatestAttempt, world)
  | .error _ => (nextAttempt prior, world)

/-- Decides what follows a failed attempt. -/
def handle (executor : Executor) (unit : WorkUnit) (fault : Fault) (prior now : Nat)
    (world : World) : Sequel × World :=
  let world :=
    world.changeBreaker now executor.breaker (·.recordFault fault (Instant.ofMillis now))
  let (attempt, world) := executor.countAttempt unit prior now world
  -- the policy judges by the number that the counter gives
  let setback := Setback.of unit fault attempt executor.handler.policy.maxAttempts.toNat
    (Instant.ofMillis now)
  let (decision, entropy) := executor.handler.judge setback world.entropy
  let world := { world with entropy }
  match decision with
  | .retry delay => (.retry attempt delay, world.audit now (.retryScheduled setback delay))
  | .giveUp compensation =>
    let (result, world) := executor.giveUp unit setback attempt compensation now world
    (.done result, world)

/-- The second half of an attempt. A unit that is not found when it is retried has gone, and for
the breaker that is a success. -/
def endAttempt (executor : Executor) (unit : WorkUnit) (prior : Nat) (outcome : Except Fault Unit)
    (now : Nat) (world : World) : Sequel × World :=
  match (world.operation executor.operation).conclude unit outcome with
  | .ok () =>
    let (completion, world) := executor.complete unit (nextAttempt prior) now world
    (.done (.ok completion), world)
  | .error fault =>
    -- a unit that has vanished says nothing against what the operation depends on
    if 0 < prior ∧ fault.isKind .notFound then
      let world :=
        world.changeBreaker now executor.breaker (·.recordSuccess (Instant.ofMillis now))
      let (completion, world) :=
        executor.abandon unit (nextAttempt prior) "unit not found" now world
      (.done (.ok completion), world)
    else executor.handle unit fault prior now world

end Executor

end Resilience
