import Resilience.EventLoop.Reactor
import Resilience.Executor.Attempt

/-!
# Lifecycles of units

The lifecycle of a unit is a sequence of attempts. Attempts are tasks of a scheduler, except the
first one of a unit that a caller processes in the foreground. What a lifecycle in the background
comes to is shown on a handle.

## Main definitions

* `Lifecycle`, `Job` — a unit on its way, and the parts of its attempts as tasks
* `World.reactor` — attempts as tasks of a loop
* `Executor.submit` — works on a unit in the background
* `Executor.process` — makes the first attempt in the foreground
* `Executor.execute` — works on a unit and waits for the result
* `World.wait` — waits for the result of a unit in the background
* `World.shutDown` — shuts a scheduler down
-/

namespace Resilience

/-- A unit on its way in the background, with the handle that shows its status. -/
structure Lifecycle where
  executor : Executor
  unit : WorkUnit
  handle : Nat

/-- A part of an attempt as a task. -/
inductive Job where
  /-- The first half, with the number handed over from the attempt before. -/
  | attempt (lifecycle : Lifecycle) (prior : Nat)
  /-- The second half, with the outcome the operation was to have. -/
  | conclude (lifecycle : Lifecycle) (prior : Nat) (outcome : Except Fault Unit)

def Job.lifecycle : Job → Lifecycle
  | attempt lifecycle _ | conclude lifecycle _ _ => lifecycle

/-- A world with its loop. -/
abbrev Universe := Run World Job

namespace Lifecycle

/-- Shows a status on the handle. -/
def publish (lifecycle : Lifecycle) (status : Status) (run : Universe) : Universe :=
  run.mapState (·.publish run.loop.now lifecycle.handle status)

/-- Schedules another attempt after a delay. A scheduler that accepts no task ends the work. -/
def postpone (lifecycle : Lifecycle) (attempt : Nat) (delay : Duration) (run : Universe) :
    Universe :=
  -- the retry is shown first, also if the scheduler then refuses it
  let run := lifecycle.publish (.retryScheduled attempt delay) run
  let scheduler := run.state.scheduler lifecycle.executor.scheduler
  match scheduler.schedule delay (.attempt lifecycle attempt) (some run.loop) with
  | .ok loop => { run with loop }
  | .error failure => lifecycle.publish (.failed failure) run

/-- Shows what an attempt has come to, and schedules the next one if there is to be one. -/
def follow (lifecycle : Lifecycle) (sequel : Sequel) (run : Universe) : Universe :=
  match sequel with
  | .done result => lifecycle.publish (.ofResult result) run
  | .retry attempt delay => lifecycle.postpone attempt delay run

/-- Makes the second half of an attempt. -/
def conclude (lifecycle : Lifecycle) (prior : Nat) (outcome : Except Fault Unit)
    (run : Universe) : Universe :=
  let (sequel, world) :=
    lifecycle.executor.endAttempt lifecycle.unit prior outcome run.loop.now run.state
  lifecycle.follow sequel { run with state := world }

/-- Makes the first half of an attempt, and the second half at once if the operation takes no
time. -/
def attempt (lifecycle : Lifecycle) (prior : Nat) (run : Universe) : Universe :=
  -- the attempt is shown before the source and the breaker are asked
  let run := lifecycle.publish (.inProgress (Executor.nextAttempt prior)) run
  let (begun, world) :=
    lifecycle.executor.beginAttempt lifecycle.unit prior run.loop.now run.state
  let run := { run with state := world }
  match begun with
  | .ended result => lifecycle.follow (.done result) run
  | .running response =>
    if response.latency = .zero then lifecycle.conclude prior response.outcome run
    else
      run.mapLoop (·.sleep response.latency
        { owner := some lifecycle.executor.scheduler
          body := .conclude lifecycle prior response.outcome })

end Lifecycle

namespace World

/-- Attempts as tasks of a loop. -/
def reactor : Reactor World Job where
  perform task :=
    match task.body with
    | .attempt lifecycle prior => lifecycle.attempt prior
    | .conclude lifecycle prior outcome => lifecycle.conclude prior outcome
  elapse := World.elapse

/-- Whether a lifecycle that has not ended shows its status on a handle. -/
def isTracked (run : Universe) (handle : Nat) : Bool :=
  run.loop.tasks.any fun task => task.body.lifecycle.handle = handle

/-- The result that waiting on a handle gives: that of its terminal status, or the shutdown that
cut its lifecycle off. -/
def resultOf (run : Universe) (handle : Nat) : Except Failure Completion :=
  ((run.state.statuses.find? handle).bind (·.result?)).getD (.error .schedulerShutDown)

/-- Whether waiting on a handle is over. -/
def isSettled (handle : Nat) (run : Universe) : Bool :=
  (run.state.statuses.find? handle).any (·.isTerminal) || !isTracked run handle

/-- Waits for the result of the unit of a handle. -/
def wait (turns handle : Nat) (run : Universe) : Except Failure Completion × Universe :=
  let run := reactor.runUntil (isSettled handle) turns run
  (resultOf run handle, run)

/-- Shuts a scheduler down. -/
def shutDown (id : Nat) (run : Universe) : Universe :=
  let (scheduler, loop) := (run.state.scheduler id).shutDown run.loop
  { loop,
    state := { run.state with schedulers := run.state.schedulers.insert id scheduler } }

/-- The number of unfinished tasks of a scheduler. -/
def pendingTasks (id : Nat) (run : Universe) : Nat := (run.state.scheduler id).pending run.loop

end World

namespace Executor

/-- Works on a unit in the background, and gives the handle that shows its status. -/
def submit (executor : Executor) (unit : WorkUnit) (run : Universe) :
    Except Failure Nat × Universe :=
  let handle := run.state.freshHandle
  let lifecycle : Lifecycle := ⟨executor, unit, handle⟩
  let scheduler := run.state.scheduler executor.scheduler
  match scheduler.schedule .zero (.attempt lifecycle 0) (some run.loop) with
  | .ok loop =>
    (.ok handle, lifecycle.publish .pending { run with loop })
  -- a unit that is refused gets no handle
  | .error failure => (.error failure, run)

/-- What processing a unit in the foreground comes to. -/
inductive Processed where
  | finished (result : Except Failure Completion)
  /-- The first attempt failed, and the handle shows what becomes of the unit. -/
  | retryScheduled (attempt : Nat) (delay : Duration) (handle : Nat)
  deriving Inhabited

/-- Makes an attempt on a unit in the foreground, as the first one. -/
def attemptHere (executor : Executor) (turns : Nat) (unit : WorkUnit) (run : Universe) :
    Sequel × Universe :=
  let (begun, world) := executor.beginAttempt unit 0 run.loop.now run.state
  let run := { run with state := world }
  match begun with
  | .ended result => (.done result, run)
  | .running response =>
    let run := World.reactor.pause response.latency turns run
    let (sequel, world) := executor.endAttempt unit 0 response.outcome run.loop.now run.state
    (sequel, { run with state := world })

/-- Makes the first attempt on a unit in the foreground; further ones are scheduled. -/
def process (executor : Executor) (turns : Nat) (unit : WorkUnit) (run : Universe) :
    Processed × Universe :=
  match executor.attemptHere turns unit run with
  | (.done result, run) => (.finished result, run)
  | (.retry attempt delay, run) =>
    let lifecycle : Lifecycle := ⟨executor, unit, run.state.freshHandle⟩
    (.retryScheduled attempt delay lifecycle.handle,
      lifecycle.postpone attempt delay (lifecycle.publish .pending run))

/-- Works on a unit in the background and waits for its result. -/
def execute (executor : Executor) (turns : Nat) (unit : WorkUnit) (run : Universe) :
    Except Failure Completion × Universe :=
  match executor.submit unit run with
  | (.ok handle, run) => World.wait turns handle run
  | (.error failure, run) => (.error failure, run)

end Executor

end Resilience
