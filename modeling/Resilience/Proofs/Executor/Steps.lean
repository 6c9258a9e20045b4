import Resilience.Executor.Lifecycle
import Resilience.Proofs.Executor.Tale

/-!
# What the steps of a lifecycle come to

A unit is submitted, an attempt begins, the next one is postponed, a scheduler is shut down. All
that each of these steps can come to is said here, with what it takes, and what holds of lifecycles
is read off these cases.

## Main definitions

* `Lifecycle.Begins` — what the operation of an attempt begins with
* `Lifecycle.Attempts` — all that the first half of an attempt can come to

## Main statements

* `Scheduler.schedule_of_shut`, `schedule_of_open` — whether a task is accepted
* `Lifecycle.postpone_of_shut`, `postpone_of_open` — what becomes of a retry
* `Lifecycle.attempts` — the first half of an attempt comes to one of its cases
* `Executor.submit_of_shut`, `submit_of_open` — what becomes of a unit
* `World.loop_shutDown_of_shut`, `loop_shutDown_of_open` — which tasks a shutdown leaves
-/

namespace Resilience

/-! ## Schedulers -/

namespace Scheduler

variable {τ : Type} {scheduler : Scheduler}

theorem schedule_of_shut (shut : scheduler.isShutDown = true) (delay : Duration) (body : τ)
    (loop : Option (EventLoop τ)) :
    scheduler.schedule delay body loop = .error .schedulerShutDown :=
  if_pos shut

theorem schedule_of_open (accepts : scheduler.isShutDown = false) (delay : Duration) (body : τ)
    (loop : EventLoop τ) :
    scheduler.schedule delay body (some loop) =
      .ok (loop.spawn { owner := some scheduler.id, delay, body }) :=
  if_neg (by rw [accepts]; exact Bool.false_ne_true)

theorem shutDown_fst (scheduler : Scheduler) (loop : EventLoop τ) :
    (scheduler.shutDown loop).1 = { scheduler with isShutDown := true } := by
  rw [shutDown]
  split
  · rename_i shut
    rw [← shut]
  · rfl

end Scheduler

namespace World

variable {run : Universe} {id : Nat}

theorem schedulers_shutDown (id : Nat) (run : Universe) :
    (shutDown id run).state.schedulers =
      run.state.schedulers.insert id { run.state.scheduler id with isShutDown := true } := by
  rw [← Scheduler.shutDown_fst (run.state.scheduler id) run.loop]
  rfl

/-- A second shutdown takes no tasks away. -/
theorem loop_shutDown_of_shut (shut : (run.state.scheduler id).isShutDown = true) :
    (shutDown id run).loop = run.loop := by
  simp only [shutDown, Scheduler.shutDown, shut, if_true]

/-- The tasks of the scheduler are dropped, and no others. -/
theorem loop_shutDown_of_open (accepts : (run.state.scheduler id).isShutDown = false) :
    (shutDown id run).loop = run.loop.abort (run.state.scheduler id).id := by
  rw [shutDown, Scheduler.shutDown, accepts]
  rfl

end World

/-! ## Attempts -/

namespace Lifecycle

variable {lifecycle : Lifecycle} {run : Universe}

/-- A scheduler that was shut down ends the work at once. -/
theorem postpone_of_shut
    (shut : (run.state.scheduler lifecycle.executor.scheduler).isShutDown = true) (attempt : Nat)
    (delay : Duration) :
    lifecycle.postpone attempt delay run =
      lifecycle.publish (.failed .schedulerShutDown)
        (lifecycle.publish (.retryScheduled attempt delay) run) := by
  have refused := @Scheduler.schedule_of_shut Job
    ((lifecycle.publish (.retryScheduled attempt delay) run).state.scheduler
      lifecycle.executor.scheduler) shut delay
  rw [postpone, refused]

/-- A scheduler that accepts tasks takes the next attempt. -/
theorem postpone_of_open
    (accepts : (run.state.scheduler lifecycle.executor.scheduler).isShutDown = false)
    (attempt : Nat) (delay : Duration) :
    lifecycle.postpone attempt delay run =
      { lifecycle.publish (.retryScheduled attempt delay) run with
        loop := run.loop.spawn
          { owner := some (run.state.scheduler lifecycle.executor.scheduler).id, delay
            body := .attempt lifecycle attempt } } := by
  have accepted := @Scheduler.schedule_of_open Job
    ((lifecycle.publish (.retryScheduled attempt delay) run).state.scheduler
      lifecycle.executor.scheduler) accepts delay
  rw [postpone, accepted]
  rfl

/-- An attempt begins: its number is shown on the handle, and the operation may be invoked. -/
def Begins (lifecycle : Lifecycle) (prior : Nat) (run : Universe) (begun : Begun) (world : World) :
    Prop :=
  lifecycle.executor.beginAttempt lifecycle.unit prior run.loop.now
    (lifecycle.publish (.inProgress (Executor.nextAttempt prior)) run).state = (begun, world)

/-- All that the first half of an attempt can come to. -/
inductive Attempts (lifecycle : Lifecycle) (prior : Nat) (run : Universe) : Universe → Prop
  /-- The operation is not invoked. -/
  | ended {result : Except Failure Completion} {world : World}
      (begins : lifecycle.Begins prior run (.ended result) world) :
    lifecycle.Attempts prior run (lifecycle.publish (.ofResult result) { run with state := world })
  /-- The operation takes no time, and the second half follows in the same turn. -/
  | atOnce {response : Response} {world : World}
      (begins : lifecycle.Begins prior run (.running response) world)
      (instant : response.latency = .zero) :
    lifecycle.Attempts prior run
      (lifecycle.conclude prior response.outcome { run with state := world })
  /-- The second half is a task of its own. -/
  | lasting {response : Response} {world : World}
      (begins : lifecycle.Begins prior run (.running response) world)
      (lasts : response.latency ≠ .zero) :
    lifecycle.Attempts prior run
      { loop := run.loop.sleep response.latency
          { owner := lifecycle.executor.scheduler
            body := .conclude lifecycle prior response.outcome }
        state := world }

theorem attempts (lifecycle : Lifecycle) (prior : Nat) (run : Universe) :
    lifecycle.Attempts prior run (lifecycle.attempt prior run) := by
  rcases begins : lifecycle.executor.beginAttempt lifecycle.unit prior run.loop.now
    (lifecycle.publish (.inProgress (Executor.nextAttempt prior)) run).state with
    ⟨result | response, world⟩
  · have attempted : lifecycle.attempt prior run =
        lifecycle.publish (.ofResult result) { run with state := world } := by
      simp only [attempt, publish, Run.mapState] at begins ⊢
      rw [begins]
      rfl
    exact attempted ▸ .ended begins
  · have attempted : lifecycle.attempt prior run =
        if response.latency = .zero then
          lifecycle.conclude prior response.outcome { run with state := world }
        else
          { loop := run.loop.sleep response.latency
              { owner := lifecycle.executor.scheduler
                body := .conclude lifecycle prior response.outcome }
            state := world } := by
      simp only [attempt, publish, Run.mapState] at begins ⊢
      rw [begins]
      rfl
    rw [attempted]
    split
    · exact .atOnce begins ‹_›
    · exact .lasting begins ‹_›

variable {prior : Nat} {begun : Begun} {world : World}

theorem Begins.statuses (begins : lifecycle.Begins prior run begun world) :
    world.statuses = run.state.statuses.insert lifecycle.handle
      (.inProgress (Executor.nextAttempt prior)) := by
  have same := lifecycle.executor.statuses_beginAttempt lifecycle.unit prior run.loop.now
    (lifecycle.publish (.inProgress (Executor.nextAttempt prior)) run).state
  rw [begins] at same
  exact same

theorem Begins.schedulers (begins : lifecycle.Begins prior run begun world) :
    world.schedulers = run.state.schedulers := by
  have same := lifecycle.executor.schedulers_beginAttempt lifecycle.unit prior run.loop.now
    (lifecycle.publish (.inProgress (Executor.nextAttempt prior)) run).state
  rw [begins] at same
  exact same

end Lifecycle

/-! ## Submissions -/

namespace Executor

variable {executor : Executor} {run : Universe}

theorem submit_of_shut (shut : (run.state.scheduler executor.scheduler).isShutDown = true)
    (unit : WorkUnit) : executor.submit unit run = (.error .schedulerShutDown, run) := by
  rw [submit, Scheduler.schedule_of_shut shut]

theorem submit_of_open (accepts : (run.state.scheduler executor.scheduler).isShutDown = false)
    (unit : WorkUnit) :
    executor.submit unit run =
      (.ok run.state.freshHandle,
        Lifecycle.publish ⟨executor, unit, run.state.freshHandle⟩ .pending
          { run with
            loop := run.loop.spawn
              { owner := some (run.state.scheduler executor.scheduler).id
                body := .attempt ⟨executor, unit, run.state.freshHandle⟩ 0 } }) := by
  rw [submit, Scheduler.schedule_of_open accepts]

end Executor

end Resilience
