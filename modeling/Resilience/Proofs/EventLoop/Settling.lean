import Resilience.Proofs.EventLoop.Moves
import Mathlib.Algebra.BigOperators.Group.List.Basic
import Mathlib.Algebra.Ring.Nat

/-!
# Runs that come to rest

A loop need not come to rest: a task can make another one ready, and that one another. If every task
leaves less to do than there was before, though, the loop runs out of turns. What a task leaves is
ranked by a number that its successor lowers; beyond that a task sleeps at most twice before its
body is performed, once for its own delay. So a wait with more turns than the rank of the loop ends
because its condition holds, or because nothing is left to happen.

## Main definitions

* `EventLoop.rank` — a number that every turn and every jump of the clock lowers
* `EventLoop.Adds` — a loop with at most one more task
* `Reactor.Winds` — every task leaves less to do

## Main statements

* `Reactor.Winds.settle` — turns run out
* `Reactor.Winds.runUntil` — a wait ends
-/

namespace Resilience

variable {σ τ : Type}

/-- The rank of a turn. A task whose delay is still before it takes two turns more. -/
def Turn.rank (left : τ → Nat) : Turn τ → Nat
  | drop _ => 1
  | run task => 4 * left task.body + if task.delay = .zero then 1 else 3

/-- The rank of a timer: it makes its task ready. -/
def Timer.rank (left : τ → Nat) (timer : Timer τ) : Nat := Turn.rank left (.run timer.task) + 1

namespace EventLoop

/-- The rank of a loop, given what the bodies of tasks leave to do. -/
def rank (left : τ → Nat) (loop : EventLoop τ) : Nat :=
  (loop.ready.map (Turn.rank left)).sum +
    (loop.timers.map (Timer.rank left)).sum

/-- A loop with at most one more task, ready or asleep. -/
inductive Adds (loop : EventLoop τ) (fits : τ → Prop) : EventLoop τ → Prop
  | nothing : Adds loop fits loop
  | ready (task : Task τ) (fit : fits task.body) : Adds loop fits (loop.spawn task)
  | asleep (duration : Duration) (task : Task τ) (waited : task.delay = .zero)
    (fit : fits task.body) : Adds loop fits (loop.sleep duration task)

variable {loop next : EventLoop τ} {left : τ → Nat}

theorem rank_spawn (left : τ → Nat) (loop : EventLoop τ) (task : Task τ) :
    (loop.spawn task).rank left = loop.rank left + Turn.rank left (.run task) := by
  rw [rank, spawn, List.map_append, List.sum_append, List.map_singleton, List.sum_singleton,
    Nat.add_right_comm, rank]

theorem rank_sleep (left : τ → Nat) (loop : EventLoop τ) (duration : Duration) (task : Task τ) :
    (loop.sleep duration task).rank left = loop.rank left + (Turn.rank left (.run task) + 1) := by
  have inserted := ((insertTimer_perm ⟨loop.now + duration.waitMillis, task⟩ loop.timers).map
    (Timer.rank left)).sum_eq
  rw [rank, sleep]
  dsimp only
  rw [inserted, List.map_cons, List.sum_cons, Nat.add_left_comm, Nat.add_comm, rank, Timer.rank]

theorem rank_firing (left : τ → Nat) (firing : List (Timer τ)) :
    (firing.map (Timer.rank left)).sum =
      ((firing.map (Turn.run ·.task)).map (Turn.rank left)).sum + firing.length := by
  induction firing with
  | nil => rfl
  | cons timer firing ih =>
    simp only [List.map_cons, List.sum_cons, List.length_cons, Timer.rank, ih]
    omega

/-- A jump of the clock to the next timer makes a task ready. -/
theorem rank_wakeAt {due : Nat} (next : loop.nextDue? = some due) :
    (loop.wakeAt due).rank left < loop.rank left := by
  obtain ⟨first, least, rfl⟩ := Option.map_eq_some_iff.1 next
  obtain ⟨rest, timers⟩ := List.head?_eq_some_iff.1 least
  rw [rank, rank, wakeAt, List.span_eq_takeWhile_dropWhile]
  dsimp only
  have fires : 0 < (loop.timers.takeWhile (·.due ≤ first.due)).length := by
    rw [timers, List.takeWhile_cons, decide_eq_true (Nat.le_refl first.due)]
    exact Nat.succ_pos _
  have whole : loop.timers.takeWhile (·.due ≤ first.due) ++
      loop.timers.dropWhile (·.due ≤ first.due) = loop.timers :=
    List.takeWhile_append_dropWhile
  generalize loop.timers.takeWhile (·.due ≤ first.due) = firing at fires whole ⊢
  have woken := rank_firing left firing
  have ranks : (loop.timers.map (Timer.rank left)).sum = (firing.map (Timer.rank left)).sum +
      ((loop.timers.dropWhile (·.due ≤ first.due)).map (Timer.rank left)).sum := by
    rw [← List.sum_append, ← List.map_append, whole]
  rw [List.map_append, List.sum_append, ranks]
  omega

/-- The rank of a loop without its first ready task. -/
theorem rank_ready {turn : Turn τ} {rest : List (Turn τ)} (ready : loop.ready = turn :: rest) :
    loop.rank left = { loop with ready := rest }.rank left + Turn.rank left turn := by
  rw [rank, ready, List.map_cons, List.sum_cons, Nat.add_assoc, Nat.add_comm, rank]

theorem rank_of_tasks_eq_nil (none : loop.tasks = []) : loop.rank left = 0 := by
  obtain ⟨ready, timers⟩ := List.append_eq_nil_iff.1 none
  rw [rank, List.map_eq_nil_iff.1 ready, List.map_eq_nil_iff.1 timers]
  rfl

/-- A task whose time has come is replaced by at most one that leaves less to do. -/
theorem Adds.rank_lt {task : Task τ} (adds : loop.Adds (left · < left task.body) next) :
    next.rank left < loop.rank left + (4 * left task.body + 1) := by
  have sleepy (other : Task τ) : Turn.rank left (.run other) ≤ 4 * left other.body + 3 := by
    rw [Turn.rank]
    split <;> omega
  cases adds with
  | nothing => omega
  | ready other fit =>
    have bound := sleepy other
    rw [rank_spawn]
    omega
  | asleep duration other waited fit =>
    rw [rank_sleep, Turn.rank, if_pos waited]
    omega

end EventLoop

namespace Reactor

/-- As long as a run is sound, every task is replaced by at most one that leaves less to do. -/
structure Winds (reactor : Reactor σ τ) (left : τ → Nat) (sound : Run σ τ → Prop) : Prop where
  turn {run next : Run σ τ} : sound run → reactor.turn? run = some next → sound next
  jump {run : Run σ τ} {due : Nat} : sound run → run.loop.ready = [] →
    run.loop.nextDue? = some due → sound (reactor.moveTo due run)
  adds {run : Run σ τ} {task : Task τ} {rest : List (Turn τ)} : sound run → task.delay = .zero →
    run.loop.ready = .run task :: rest →
      { run.loop with ready := rest }.Adds (left · < left task.body)
        (reactor.perform task { run with loop := { run.loop with ready := rest } }).loop

namespace Winds

variable {reactor : Reactor σ τ} {left : τ → Nat} {sound : Run σ τ → Prop} {run next : Run σ τ}

/-- Every turn lowers the rank. -/
theorem rank_turn (winds : reactor.Winds left sound) (here : sound run)
    (taken : reactor.turn? run = some next) : next.loop.rank left < run.loop.rank left := by
  unfold turn? at taken
  split at taken
  · cases taken
  · rename_i turn rest ready
    rw [EventLoop.rank_ready ready]
    cases turn with
    | drop task =>
      cases taken
      exact Nat.lt_succ_self _
    | run task =>
      dsimp only at taken
      split at taken
      · rename_i now
        cases taken
        rw [Turn.rank, if_pos now]
        exact (winds.adds here now ready).rank_lt
      · rename_i later
        cases taken
        dsimp only [Run.mapLoop]
        -- falling asleep uses up the wait of the task
        rw [EventLoop.rank_sleep, Turn.rank, Turn.rank, if_pos rfl, if_neg later]
        dsimp only
        omega

/-- With as many turns as the rank, no task is ready in the end. -/
theorem settle (winds : reactor.Winds left sound) (turns : Nat) (here : sound run)
    (enough : run.loop.rank left ≤ turns) :
    sound (reactor.settle turns run) ∧ (reactor.settle turns run).loop.ready = [] ∧
      (reactor.settle turns run).loop.rank left ≤ run.loop.rank left := by
  induction turns generalizing run with
  | zero =>
    refine ⟨here, ?_, Nat.le_refl _⟩
    cases taken : reactor.turn? run with
    | none => exact turn?_eq_none.1 taken
    | some next => exact absurd (winds.rank_turn here taken) (by omega)
  | succ turns ih =>
    rw [Reactor.settle]
    cases taken : reactor.turn? run with
    | none => exact ⟨here, turn?_eq_none.1 taken, Nat.le_refl _⟩
    | some next =>
      have lower := winds.rank_turn here taken
      obtain ⟨there, idle, below⟩ := ih (winds.turn here taken) (by omega)
      exact ⟨there, idle, below.trans (Nat.le_of_lt lower)⟩

/-- A step of a wait lowers the rank. -/
theorem step? (winds : reactor.Winds left sound) {turns : Nat} (here : sound run)
    (enough : run.loop.rank left ≤ turns) (taken : reactor.step? turns run = some next) :
    sound next ∧ next.loop.rank left < run.loop.rank left := by
  unfold Reactor.step? at taken
  split at taken
  · rename_i idle
    obtain ⟨due, first, rfl⟩ := Option.map_eq_some_iff.1 taken
    exact ⟨winds.jump here (List.isEmpty_iff.1 idle) first, EventLoop.rank_wakeAt first⟩
  · rename_i busy
    cases taken
    cases turned : reactor.turn? run with
    | none => exact absurd (List.isEmpty_iff.2 (turn?_eq_none.1 turned)) busy
    | some next =>
      have lower := winds.rank_turn here turned
      cases turns with
      | zero => omega
      | succ turns =>
        rw [Reactor.settle, turned]
        obtain ⟨there, -, below⟩ := winds.settle turns (winds.turn here turned) (by omega)
        exact ⟨there, Nat.lt_of_le_of_lt below lower⟩

/-- A wait with more turns than the rank ends: its condition holds, or no task is left. -/
theorem runUntil (winds : reactor.Winds left sound) (holds : Run σ τ → Bool) (turns : Nat)
    (here : sound run) (enough : run.loop.rank left < turns) :
    holds (reactor.runUntil holds turns run) = true ∨
      (reactor.runUntil holds turns run).loop.tasks = [] := by
  induction turns generalizing run with
  | zero => exact absurd enough (Nat.not_lt_zero _)
  | succ turns ih =>
    rw [Reactor.runUntil]
    split
    · exact .inl ‹_›
    · cases taken : reactor.step? turns run with
      | none =>
        -- no step is left only if nothing is ready and no timer is set
        refine .inr ?_
        unfold Reactor.step? at taken
        split at taken
        · rename_i idle
          have timers : run.loop.timers = [] := by
            simpa [EventLoop.nextDue?] using taken
          dsimp only
          rw [EventLoop.tasks, timers, List.isEmpty_iff.1 idle]
          rfl
        · cases taken
      | some next =>
        obtain ⟨there, lower⟩ := winds.step? here (Nat.le_of_lt_succ enough) taken
        exact ih there (by omega)

end Winds

end Reactor

end Resilience
