import Resilience.Duration

/-!
# A loop of cooperative tasks

Tasks take turns on a single thread. A task runs until it ends or sleeps; tasks that are ready take
their turns in the order in which they became ready, and computing takes no time. The clock counts
whole milliseconds and moves only when no task is ready: then it jumps to the next timer, and all
tasks whose timers are due become ready in the order in which they fell asleep.

## Main definitions

* `Task` — a body with the owner that may abort it and the wait before it starts
* `EventLoop` — the clock, the ready tasks and the timers
* `EventLoop.spawn`, `sleep`, `abort`, `wake` — what changes a loop
* `EventLoop.tasks`, `EventLoop.owned` — the unfinished tasks
-/

namespace Resilience

/-- A task that has not ended. -/
structure Task (τ : Type) where
  /-- The scheduler that accepted the task. -/
  owner : Option Nat := none
  /-- The wait that begins when the task's turn first comes. -/
  delay : Duration := .zero
  body : τ
  deriving Inhabited

/-- What happens when a task's turn comes. -/
inductive Turn (τ : Type) where
  | run (task : Task τ)
  /-- The task was aborted and ends without running. -/
  | drop (task : Task τ)

def Turn.task {τ : Type} : Turn τ → Task τ
  | run task | drop task => task

/-- A task that sleeps until a clock reading. -/
structure Timer (τ : Type) where
  due : Nat
  task : Task τ

/-- The clock, the ready tasks and the timers in the order in which they fire. -/
structure EventLoop (τ : Type) where
  now : Nat := 0
  ready : List (Turn τ) := []
  timers : List (Timer τ) := []

namespace EventLoop

variable {τ : Type}

instance : Inhabited (EventLoop τ) := ⟨{}⟩

/-- The current instant on the exact scale. -/
def instant (loop : EventLoop τ) : Instant := Instant.ofMillis loop.now

/-- Makes a task ready, behind the tasks that are ready already. -/
def spawn (loop : EventLoop τ) (task : Task τ) : EventLoop τ :=
  { loop with ready := loop.ready ++ [.run task] }

/-- Puts a timer behind those that fire no later. -/
def insertTimer (timer : Timer τ) : List (Timer τ) → List (Timer τ)
  | [] => [timer]
  | other :: rest =>
    if timer.due < other.due then timer :: other :: rest else other :: insertTimer timer rest

/-- Puts a task to sleep for a duration, rounded up to whole milliseconds. -/
def sleep (loop : EventLoop τ) (duration : Duration) (task : Task τ) : EventLoop τ :=
  { loop with timers := insertTimer ⟨loop.now + duration.waitMillis, task⟩ loop.timers }

/-- Aborts a ready task of an owner. -/
def Turn.abort (owner : Nat) : Turn τ → Turn τ
  | .run task => if task.owner = some owner then .drop task else .run task
  | .drop task => .drop task

/-- Aborts the tasks of an owner at their current wait. They end when their turn comes. -/
def abort (loop : EventLoop τ) (owner : Nat) : EventLoop τ :=
  -- a task that sleeps becomes ready to end, behind those that are ready already
  let (aborted, timers) := loop.timers.partition (·.task.owner = some owner)
  { loop with
    ready := loop.ready.map (Turn.abort owner) ++ aborted.map (.drop ·.task)
    timers }

/-- The tasks that have not ended, aborted ones included. -/
def tasks (loop : EventLoop τ) : List (Task τ) :=
  loop.ready.map Turn.task ++ loop.timers.map (·.task)

/-- The number of tasks of an owner that have not ended. -/
def owned (loop : EventLoop τ) (owner : Nat) : Nat :=
  loop.tasks.countP (·.owner = some owner)

/-- The next clock reading at which a timer is due. -/
def nextDue? (loop : EventLoop τ) : Option Nat := loop.timers.head?.map (·.due)

/-- Moves the clock to a later reading and makes the tasks ready whose timers are due then. -/
def wakeAt (loop : EventLoop τ) (due : Nat) : EventLoop τ :=
  let (firing, timers) := loop.timers.span (·.due ≤ due)
  { now := due, ready := loop.ready ++ firing.map (.run ·.task), timers }

end EventLoop

end Resilience
