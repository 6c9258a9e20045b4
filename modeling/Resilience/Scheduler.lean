import Resilience.EventLoop.Basic
import Resilience.Failure

/-!
# Schedulers

A scheduler accepts tasks that start after a delay. It can be shut down, once: from then on it
accepts no task, and the tasks it accepted before end at their current wait.

## Main definitions

* `Scheduler` — an owner of tasks that accepts more of them or not
* `Scheduler.schedule` — accepts a task
* `Scheduler.shutDown` — aborts its tasks and accepts no more
* `Scheduler.pending` — the number of its unfinished tasks
-/

namespace Resilience

/-- An owner of tasks. -/
structure Scheduler where
  id : Nat
  isShutDown : Bool := false
  deriving DecidableEq, Repr, Inhabited

namespace Scheduler

variable {τ : Type}

/-- Accepts a task that starts after a delay, if there is a loop to run it on. -/
def schedule (scheduler : Scheduler) (delay : Duration) (body : τ) (loop : Option (EventLoop τ)) :
    Except Failure (EventLoop τ) :=
  -- a shutdown is the reason to refuse even if there is no loop either
  if scheduler.isShutDown then .error .schedulerShutDown
  else
    match loop with
    | none => .error (.internal "no event loop to schedule on")
    | some loop => .ok (loop.spawn { owner := some scheduler.id, delay, body })

/-- Shuts the scheduler down and aborts its tasks. A second time changes nothing. -/
def shutDown (scheduler : Scheduler) (loop : EventLoop τ) : Scheduler × EventLoop τ :=
  if scheduler.isShutDown then (scheduler, loop)
  else ({ scheduler with isShutDown := true }, loop.abort scheduler.id)

/-- The number of accepted tasks that have not ended. -/
def pending (scheduler : Scheduler) (loop : EventLoop τ) : Nat := loop.owned scheduler.id

end Scheduler

end Resilience
