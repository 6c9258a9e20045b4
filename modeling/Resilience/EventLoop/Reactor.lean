import Resilience.EventLoop.Basic

/-!
# Running a loop of tasks

A reactor tells what a task does to the state when its turn comes, and what becomes of the state
while time passes. A run pairs a loop with a state. A caller in the foreground works on the run
between the turns of tasks: while it waits, all ready tasks take their turns before it goes on, and
when the clock has jumped it goes on before the tasks that became ready by the jump.

The loops below take a number of turns as their fuel; with more turns than tasks want, the number
does not matter.

## Main definitions

* `Reactor` — the meaning of tasks
* `Run` — a loop and a state
* `Reactor.turn?` — one turn of the first ready task
* `Reactor.settle` — turns until no task is ready
* `Reactor.reach`, `Reactor.pause` — turns and jumps of the clock while the caller sleeps
* `Reactor.advance` — everything that happens for some milliseconds
* `Reactor.runUntil` — turns and jumps of the clock until a condition holds
-/

namespace Resilience

/-- A loop of tasks together with the state they work on. -/
structure Run (σ τ : Type) where
  loop : EventLoop τ := {}
  state : σ

namespace Run

variable {σ τ : Type}

instance [Inhabited σ] : Inhabited (Run σ τ) := ⟨{ state := default }⟩

/-- Changes the loop of a run. -/
def mapLoop (run : Run σ τ) (change : EventLoop τ → EventLoop τ) : Run σ τ :=
  { run with loop := change run.loop }

/-- Changes the state of a run. -/
def mapState (run : Run σ τ) (change : σ → σ) : Run σ τ := { run with state := change run.state }

/-- Changes the state of a run by a request that has an answer. -/
def askState {α : Type} (run : Run σ τ) (request : σ → α × σ) : α × Run σ τ :=
  let (answer, state) := request run.state
  (answer, { run with state })

end Run

/-- The meaning of tasks on a state. -/
structure Reactor (σ τ : Type) where
  /-- What a task does when its turn comes. The task has left the loop by then. -/
  perform : Task τ → Run σ τ → Run σ τ
  /-- What becomes of the state while the clock moves from one reading to another. -/
  elapse : (before after : Nat) → σ → σ := fun _ _ state => state

namespace Reactor

variable {σ τ : Type}

/-- One turn of the first ready task, if there is one. A task whose wait has not begun falls
asleep. -/
def turn? (reactor : Reactor σ τ) (run : Run σ τ) : Option (Run σ τ) :=
  match run.loop.ready with
  | [] => none
  | turn :: rest =>
    let run := run.mapLoop fun loop => { loop with ready := rest }
    match turn with
    | .drop _ => some run
    | .run task =>
      if task.delay = .zero then some (reactor.perform task run)
      else some (run.mapLoop fun loop => loop.sleep task.delay { task with delay := .zero })

/-- Moves the clock to a reading and wakes the tasks that are due. -/
def moveTo (reactor : Reactor σ τ) (due : Nat) (run : Run σ τ) : Run σ τ :=
  { loop := run.loop.wakeAt due, state := reactor.elapse run.loop.now due run.state }

/-- Turns until no task is ready. -/
def settle (reactor : Reactor σ τ) : (turns : Nat) → Run σ τ → Run σ τ
  | 0, run => run
  | turns + 1, run =>
    match reactor.turn? run with
    | none => run
    | some run => reactor.settle turns run

/-- Turns and jumps of the clock up to a reading. Tasks that become ready at that reading have not
taken their turns yet. -/
def reach (reactor : Reactor σ τ) (target : Nat) : (turns : Nat) → Run σ τ → Run σ τ
  | 0, run => run
  | turns + 1, run =>
    match reactor.turn? run with
    | some run => reactor.reach target turns run
    | none =>
      match run.loop.nextDue? with
      | some due =>
        if due < target then reactor.reach target turns (reactor.moveTo due run)
        else reactor.moveTo target run
      | none => reactor.moveTo target run

/-- What happens while the caller in the foreground sleeps for a duration. -/
def pause (reactor : Reactor σ τ) (duration : Duration) (turns : Nat) (run : Run σ τ) : Run σ τ :=
  if duration = .zero then run
  else reactor.reach (run.loop.now + duration.waitMillis) turns run

/-- What happens for some milliseconds, with everything that is due at their end. -/
def advance (reactor : Reactor σ τ) (millis turns : Nat) (run : Run σ τ) : Run σ τ :=
  reactor.settle turns (reactor.reach (run.loop.now + millis) turns run)

/-- The turns of all ready tasks, or a jump of the clock to the next timer when no task is
ready. -/
def step? (reactor : Reactor σ τ) (turns : Nat) (run : Run σ τ) : Option (Run σ τ) :=
  if run.loop.ready.isEmpty then run.loop.nextDue?.map fun due => reactor.moveTo due run
  else some (reactor.settle turns run)

/-- What happens while the caller in the foreground waits for a condition, or until nothing is left
to happen. -/
def runUntil (reactor : Reactor σ τ) (holds : Run σ τ → Bool) : (turns : Nat) → Run σ τ → Run σ τ
  | 0, run => run
  | turns + 1, run =>
    if holds run then run
    else
      match reactor.step? turns run with
      | none => run
      | some run => reactor.runUntil holds turns run

end Reactor

end Resilience
