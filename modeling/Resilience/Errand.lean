import Resilience.EventLoop.Reactor
import Resilience.Scheduler

/-!
# Errands

An errand is a simple scheduled task that leaves marks: one when it starts, and possibly more when
it has worked for a while or has scheduled a follow-up. Errands show how a scheduler treats delays,
failing tasks, tasks that schedule tasks, and a shutdown.

## Main definitions

* `Errand` — what a task does after its first mark
* `Mark`, `Mark.json` — a mark with its time
* `Board` — a scheduler and the marks left so far
* `Errand.reactor` — errands as tasks of a loop
-/

namespace Resilience

/-- What a task does when it starts, after leaving its mark. -/
structure Errand (ι : Type) where
  label : ι
  /-- Whether the task fails after its first mark, so that nothing else follows. -/
  panics : Bool := false
  /-- The time it works before leaving a second mark, in milliseconds. -/
  work : Option Nat := none
  /-- The delay of a follow-up that it schedules at the end, in milliseconds. -/
  again : Option Nat := none
  deriving DecidableEq, Repr

/-- A mark of an errand. -/
inductive Mark (ι : Type) where
  | started (label : ι) (time : Nat)
  | worked (label : ι) (time : Nat)
  | followedUp (label : ι) (time : Nat)
  /-- What came of scheduling a follow-up. -/
  | rescheduled (failure : Option Failure)
  deriving Repr

/-- A mark as the label, what was done and the time; a follow-up as its outcome. -/
def Mark.json {ι : Type} (label : ι → Json) : Mark ι → Json
  | started errand time => .array [label errand, .natural time]
  | worked errand time => .array [label errand, .string "done", .natural time]
  | followedUp errand time => .array [label errand, .string "again", .natural time]
  | rescheduled failure => (failure.map Failure.json).getD (.string "rescheduled")

/-- A scheduler and the marks left so far. -/
structure Board (ι : Type) where
  scheduler : Scheduler
  marks : List (Mark ι) := []

/-- The parts of an errand. -/
inductive ErrandTask (ι : Type) where
  | start (errand : Errand ι)
  | finishWork (errand : Errand ι)
  | followUp (label : ι)

/-- A board with the loop its tasks run on. -/
abbrev ErrandRun (ι : Type) := Run (Board ι) (ErrandTask ι)

namespace Errand

variable {ι : Type}

/-- Leaves a mark. -/
def mark (entry : Mark ι) (run : ErrandRun ι) : ErrandRun ι :=
  run.mapState fun board => { board with marks := board.marks ++ [entry] }

/-- Schedules the follow-up of an errand, if it has one. -/
def scheduleAgain (errand : Errand ι) (run : ErrandRun ι) : ErrandRun ι :=
  match errand.again with
  | none => run
  | some delay =>
    let scheduler := run.state.scheduler
    match scheduler.schedule (.ofMillis delay) (.followUp errand.label) (some run.loop) with
    | .ok loop => mark (.rescheduled none) { run with loop }
    | .error failure => mark (.rescheduled (some failure)) run

/-- What an errand does after its work. -/
def finishWork (errand : Errand ι) (run : ErrandRun ι) : ErrandRun ι :=
  scheduleAgain errand (mark (.worked errand.label run.loop.now) run)

/-- What an errand does when it starts. -/
def start (errand : Errand ι) (owner : Option Nat) (run : ErrandRun ι) : ErrandRun ι :=
  let run := mark (.started errand.label run.loop.now) run
  if errand.panics then run
  else
    match errand.work with
    | none => scheduleAgain errand run
    | some 0 => finishWork errand run
    | some work => run.mapLoop (·.sleep (.ofMillis work) { owner, body := .finishWork errand })

/-- Errands as tasks of a loop. -/
def reactor : Reactor (Board ι) (ErrandTask ι) where
  perform task run :=
    match task.body with
    | .start errand => start errand task.owner run
    | .finishWork errand => finishWork errand run
    | .followUp label => mark (.followedUp label run.loop.now) run

end Errand

end Resilience
