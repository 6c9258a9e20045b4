import Resilience.Proofs.EventLoop.Moves
import Mathlib.Data.List.Forall2

/-!
# Loops that match

Two loops match if their clocks show the same and their tasks stand in the same order, with the same
owners and the same waits, but with bodies that are only alike. If performing alike bodies keeps runs
alike, then runs that match match for ever, whatever a caller in the foreground waits for.

## Main definitions

* `EventLoop.Matches` — the same tasks, up to their bodies
* `Run.Matches` — loops that match, with states that are alike
* `Reactor.Respects` — performing alike bodies keeps runs alike

## Main statements

* `Reactor.Respects.move` — moves of a loop keep runs alike
* `Reactor.Respects.pause`, `Reactor.Respects.runUntil` — and so do callers that wait
-/

namespace Resilience

variable {σ τ : Type}

/-- Tasks that differ in their bodies only. -/
structure Task.Matches (alike : τ → τ → Prop) (first second : Task τ) : Prop where
  owner : first.owner = second.owner
  delay : first.delay = second.delay
  body : alike first.body second.body

/-- Turns of tasks that match, both aborted or none. -/
inductive Turn.Matches (alike : τ → τ → Prop) : Turn τ → Turn τ → Prop
  | run {first second : Task τ} (tasks : first.Matches alike second) :
    Matches alike (.run first) (.run second)
  | drop {first second : Task τ} (tasks : first.Matches alike second) :
    Matches alike (.drop first) (.drop second)

/-- Timers of tasks that match, due at the same time. -/
structure Timer.Matches (alike : τ → τ → Prop) (first second : Timer τ) : Prop where
  due : first.due = second.due
  task : first.task.Matches alike second.task

/-- Loops with the same tasks in the same order, up to their bodies. -/
structure EventLoop.Matches (alike : τ → τ → Prop) (first second : EventLoop τ) : Prop where
  now : first.now = second.now
  ready : first.ready.Forall₂ (Turn.Matches alike) second.ready
  timers : first.timers.Forall₂ (Timer.Matches alike) second.timers

/-- Runs whose loops match and whose states are alike. -/
structure Run.Matches (same : σ → σ → Prop) (alike : τ → τ → Prop) (first second : Run σ τ) :
    Prop where
  loop : first.loop.Matches alike second.loop
  state : same first.state second.state

namespace EventLoop

variable {alike : τ → τ → Prop} {first second : EventLoop τ}

/-! ## Tasks are added and taken away -/

theorem Matches.spawn (loops : first.Matches alike second) {task other : Task τ}
    (tasks : task.Matches alike other) : (first.spawn task).Matches alike (second.spawn other) where
  now := loops.now
  ready := List.rel_append loops.ready (.cons (.run tasks) .nil)
  timers := loops.timers

theorem insertTimer_matches {timer other : Timer τ} (timers : timer.Matches alike other)
    {early late : List (Timer τ)} (all : early.Forall₂ (Timer.Matches alike) late) :
    (insertTimer timer early).Forall₂ (Timer.Matches alike) (insertTimer other late) := by
  induction all with
  | nil => exact .cons timers .nil
  | cons front rest ih =>
    rw [insertTimer, insertTimer, timers.due, front.due]
    split
    · exact .cons timers (.cons front rest)
    · exact .cons front ih

theorem Matches.sleep (loops : first.Matches alike second) (duration : Duration)
    {task other : Task τ} (tasks : task.Matches alike other) :
    (first.sleep duration task).Matches alike (second.sleep duration other) where
  now := loops.now
  ready := loops.ready
  timers := insertTimer_matches ⟨congrArg (· + duration.waitMillis) loops.now, tasks⟩ loops.timers

theorem abort_matches {turn other : Turn τ} (turns : turn.Matches alike other) (owner : Nat) :
    (Turn.abort owner turn).Matches alike (Turn.abort owner other) := by
  cases turns with
  | run tasks =>
    rw [Turn.abort, Turn.abort, tasks.owner]
    split
    · exact .drop tasks
    · exact .run tasks
  | drop tasks => exact .drop tasks

theorem Matches.abort (loops : first.Matches alike second) (owner : Nat) :
    (first.abort owner).Matches alike (second.abort owner) := by
  have owned : ∀ {timer other : Timer τ}, timer.Matches alike other →
      ((decide (timer.task.owner = some owner) = true) ↔
        (decide (other.task.owner = some owner) = true)) :=
    fun timers => by rw [timers.task.owner]
  have spared : ∀ {timer other : Timer τ}, timer.Matches alike other →
      ((!decide (timer.task.owner = some owner)) = true ↔
        (!decide (other.task.owner = some owner)) = true) :=
    fun timers => by rw [timers.task.owner]
  simp only [EventLoop.abort, List.partition_eq_filter_filter]
  exact
    { now := loops.now
      ready := List.rel_append
        (List.rel_map (fun _ _ turns => abort_matches turns owner) loops.ready)
        (List.rel_map (fun _ _ timers => Turn.Matches.drop timers.task)
          (List.rel_filter (fun _ _ timers => owned timers) loops.timers))
      timers := List.rel_filter (fun _ _ timers => spared timers) loops.timers }

/-- The tasks that have not ended match one by one. -/
theorem Matches.tasks (loops : first.Matches alike second) :
    first.tasks.Forall₂ (Task.Matches alike) second.tasks := by
  refine List.rel_append (List.rel_map (fun _ _ turns => ?_) loops.ready)
    (List.rel_map (fun _ _ timers => timers.task) loops.timers)
  cases turns with
  | run tasks | drop tasks => exact tasks

/-! ## The clock moves -/

theorem Matches.nextDue? (loops : first.Matches alike second) :
    first.nextDue? = second.nextDue? := by
  have timers := loops.timers
  rw [EventLoop.nextDue?, EventLoop.nextDue?]
  generalize first.timers = early, second.timers = late at timers
  cases timers with
  | nil => rfl
  | cons front rest => exact congrArg some front.due

theorem Matches.isEmpty_ready (loops : first.Matches alike second) :
    first.ready.isEmpty = second.ready.isEmpty := by
  have ready := loops.ready
  generalize first.ready = early, second.ready = late at ready
  cases ready with
  | nil | cons => rfl

theorem all_due_eq {early late : List (Timer τ)} (all : early.Forall₂ (Timer.Matches alike) late)
    (target : Nat) : early.all (target ≤ ·.due) = late.all (target ≤ ·.due) := by
  induction all with
  | nil => rfl
  | cons front rest ih => rw [List.all_cons, List.all_cons, front.due, ih]

theorem Matches.canReach (loops : first.Matches alike second) (target : Nat) :
    first.canReach target = second.canReach target := by
  rw [EventLoop.canReach, EventLoop.canReach, loops.isEmpty_ready, loops.now,
    all_due_eq loops.timers]

/-- The timers that fire match, and so do the others. -/
theorem span_matches {early late : List (Timer τ)} (all : early.Forall₂ (Timer.Matches alike) late)
    (due : Nat) :
    (early.takeWhile (·.due ≤ due)).Forall₂ (Timer.Matches alike) (late.takeWhile (·.due ≤ due)) ∧
      (early.dropWhile (·.due ≤ due)).Forall₂ (Timer.Matches alike)
        (late.dropWhile (·.due ≤ due)) := by
  induction all with
  | nil => exact ⟨.nil, .nil⟩
  | cons front rest ih =>
    rw [List.takeWhile_cons, List.takeWhile_cons, List.dropWhile_cons, List.dropWhile_cons,
      front.due]
    split
    · exact ⟨.cons front ih.1, ih.2⟩
    · exact ⟨.nil, .cons front rest⟩

theorem Matches.wakeAt (loops : first.Matches alike second) (due : Nat) :
    (first.wakeAt due).Matches alike (second.wakeAt due) := by
  obtain ⟨firing, others⟩ := span_matches loops.timers due
  simp only [EventLoop.wakeAt, List.span_eq_takeWhile_dropWhile]
  exact
    { now := rfl
      ready := List.rel_append loops.ready
        (List.rel_map (fun _ _ timers => Turn.Matches.run timers.task) firing)
      timers := others }

end EventLoop

/-! ## Reactors -/

namespace Reactor

variable {same : σ → σ → Prop} {alike : τ → τ → Prop} {reactor : Reactor σ τ}
  {first second : Run σ τ}

/-- Performing alike bodies keeps runs alike, and so does the passing of time. -/
structure Respects (reactor : Reactor σ τ) (same : σ → σ → Prop) (alike : τ → τ → Prop) :
    Prop where
  perform : ∀ {task other : Task τ} {first second : Run σ τ}, task.Matches alike other →
    first.Matches same alike second →
      (reactor.perform task first).Matches same alike (reactor.perform other second)
  elapse : ∀ {first second : σ}, same first second → ∀ before after,
    same (reactor.elapse before after first) (reactor.elapse before after second)

namespace Respects

/-- The same turn is taken in both runs, or none in either. -/
theorem turn? (respects : reactor.Respects same alike) (runs : first.Matches same alike second) :
    Option.Rel (Run.Matches same alike) (reactor.turn? first) (reactor.turn? second) := by
  have ready := runs.loop.ready
  rw [Reactor.turn?, Reactor.turn?]
  generalize first.loop.ready = early, second.loop.ready = late at ready
  cases ready with
  | nil => exact .none
  | @cons _ _ rest others front follow =>
    have left : ({ first.loop with ready := rest } : EventLoop τ).Matches alike
      { second.loop with ready := others } := ⟨runs.loop.now, follow, runs.loop.timers⟩
    cases front with
    | @run task other tasks =>
      dsimp only
      rw [tasks.delay]
      split
      · exact .some (respects.perform tasks ⟨left, runs.state⟩)
      · have begun : ({ task with delay := .zero } : Task τ).Matches alike
          { other with delay := .zero } := ⟨tasks.owner, rfl, tasks.body⟩
        exact .some ⟨left.sleep other.delay begun, runs.state⟩
    | drop tasks => exact .some ⟨left, runs.state⟩

theorem moveTo (respects : reactor.Respects same alike) (runs : first.Matches same alike second)
    (due : Nat) : (reactor.moveTo due first).Matches same alike (reactor.moveTo due second) := by
  refine ⟨runs.loop.wakeAt due, ?_⟩
  rw [Reactor.moveTo, Reactor.moveTo, runs.loop.now]
  exact respects.elapse runs.state _ _

/-- Moves of the loop keep runs alike. -/
theorem move (respects : reactor.Respects same alike) (runs : first.Matches same alike second)
    (move : LoopMove) : (reactor.move first move).Matches same alike (reactor.move second move) := by
  cases move with
  | turn =>
    have taken := respects.turn? runs
    rw [Reactor.move, Reactor.move]
    generalize reactor.turn? first = next, reactor.turn? second = other at taken
    cases taken with
    | some taken => exact taken
    | none => exact runs
  | jump target =>
    rw [Reactor.move, Reactor.move, runs.loop.canReach]
    split
    · exact respects.moveTo runs target
    · exact runs

/-! ## Callers that wait -/

theorem settle (respects : reactor.Respects same alike) (turns : Nat)
    (runs : first.Matches same alike second) :
    (reactor.settle turns first).Matches same alike (reactor.settle turns second) := by
  induction turns generalizing first second with
  | zero => exact runs
  | succ turns ih =>
    have taken := respects.turn? runs
    rw [Reactor.settle, Reactor.settle]
    generalize reactor.turn? first = next, reactor.turn? second = other at taken
    cases taken with
    | some taken => exact ih taken
    | none => exact runs

theorem reach (respects : reactor.Respects same alike) (target turns : Nat)
    (runs : first.Matches same alike second) :
    (reactor.reach target turns first).Matches same alike (reactor.reach target turns second) := by
  induction turns generalizing first second with
  | zero => exact runs
  | succ turns ih =>
    have taken := respects.turn? runs
    rw [Reactor.reach, Reactor.reach]
    generalize reactor.turn? first = next, reactor.turn? second = other at taken
    cases taken with
    | some taken => exact ih taken
    | none =>
      dsimp only
      rw [runs.loop.nextDue?]
      cases second.loop.nextDue? with
      | none => exact respects.moveTo runs target
      | some due =>
        dsimp only
        split
        · exact ih (respects.moveTo runs due)
        · exact respects.moveTo runs target

theorem pause (respects : reactor.Respects same alike) (duration : Duration) (turns : Nat)
    (runs : first.Matches same alike second) :
    (reactor.pause duration turns first).Matches same alike
      (reactor.pause duration turns second) := by
  rw [Reactor.pause, Reactor.pause, runs.loop.now]
  split
  · exact runs
  · exact respects.reach _ turns runs

theorem step? (respects : reactor.Respects same alike) (turns : Nat)
    (runs : first.Matches same alike second) :
    Option.Rel (Run.Matches same alike) (reactor.step? turns first)
      (reactor.step? turns second) := by
  rw [Reactor.step?, Reactor.step?, runs.loop.isEmpty_ready, runs.loop.nextDue?]
  split
  · cases second.loop.nextDue? with
    | none => exact .none
    | some due => exact .some (respects.moveTo runs due)
  · exact .some (respects.settle turns runs)

/-- Waiting for something that holds in both runs or in neither keeps them alike. -/
theorem runUntil (respects : reactor.Respects same alike) {holds : Run σ τ → Bool}
    (agree : ∀ {first second : Run σ τ}, first.Matches same alike second →
      holds first = holds second) (turns : Nat) (runs : first.Matches same alike second) :
    (reactor.runUntil holds turns first).Matches same alike
      (reactor.runUntil holds turns second) := by
  induction turns generalizing first second with
  | zero => exact runs
  | succ turns ih =>
    have taken := respects.step? turns runs
    rw [Reactor.runUntil, Reactor.runUntil, agree runs]
    generalize reactor.step? turns first = next, reactor.step? turns second = other at taken
    split
    · exact runs
    · cases taken with
      | some taken => exact ih taken
      | none => exact runs

end Respects

end Reactor

end Resilience
