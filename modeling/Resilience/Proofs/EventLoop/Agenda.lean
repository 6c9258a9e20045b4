import Resilience.EventLoop.Reactor
import Mathlib.Data.Multiset.Filter
import Mathlib.Data.Multiset.ZeroCons
import Mathlib.Data.List.TakeDrop
import Mathlib.Data.List.TakeWhile

/-!
# The agenda of a loop

Where a task waits — among the ready tasks, with its delay still before it, or among the timers —
does not matter for when it takes its turn. The agenda of a loop lists the tasks that are still to
run with the clock reading at which they do. Neither the turn of a task that falls asleep nor a jump
of the clock changes the agenda.

## Main definitions

* `Appointment`, `EventLoop.agenda` — the tasks that are still to run, with their times
* `EventLoop.Ordered` — the timers are in the order in which they fire, none of them in the past
* `EventLoop.canReach` — whether the clock can move to a reading without passing a task by

## Main statements

* `EventLoop.agenda_spawn`, `agenda_sleep`, `agenda_abort`, `agenda_wakeAt` — what becomes of the
  agenda
* `Reactor.turn?_cases` — a turn keeps the agenda, or performs the body of a task whose time has
  come
-/

namespace Resilience

/-- A task that is still to run, with the clock reading at which its turn comes. -/
structure Appointment (τ : Type) where
  due : Nat
  owner : Option Nat
  body : τ

variable {τ σ : Type}

/-- The appointment of a task whose turn comes at a reading; then its own delay is still to pass. -/
def Task.appointment (task : Task τ) (reading : Nat) : Appointment τ where
  due := reading + task.delay.waitMillis
  owner := task.owner
  body := task.body

/-- The appointment of a ready task, unless it was aborted. -/
def Turn.appointment? (now : Nat) : Turn τ → Option (Appointment τ)
  | run task => some (task.appointment now)
  | drop _ => none

@[simp] theorem Duration.waitMillis_zero : Duration.zero.waitMillis = 0 := by
  have short : ¬ longestWait < zero := Nat.not_lt_zero _
  rw [waitMillis, wait, if_neg short, ceilMillis]
  exact Nat.div_eq_of_lt (by simp [zero, nanosPerMilli])

namespace EventLoop

/-- The tasks that are still to run, each with its time. -/
def agenda (loop : EventLoop τ) : Multiset (Appointment τ) :=
  ↑(loop.ready.filterMap (·.appointment? loop.now)) +
    ↑(loop.timers.map fun timer => timer.task.appointment timer.due)

/-- The timers stand in the order in which they fire, and none is in the past. -/
structure Ordered (loop : EventLoop τ) : Prop where
  sorted : loop.timers.Pairwise (·.due ≤ ·.due)
  ahead : ∀ timer ∈ loop.timers, loop.now ≤ timer.due

/-- Whether the clock can move to a reading without passing a task by. -/
def canReach (loop : EventLoop τ) (target : Nat) : Bool :=
  loop.ready.isEmpty && loop.now ≤ target && loop.timers.all (target ≤ ·.due)

variable {loop : EventLoop τ}

/-! ## Timers -/

theorem insertTimer_perm (timer : Timer τ) (timers : List (Timer τ)) :
    (insertTimer timer timers).Perm (timer :: timers) := by
  induction timers with
  | nil => exact .refl _
  | cons other rest ih =>
    rw [insertTimer]
    split
    · exact .refl _
    · exact (ih.cons other).trans (.swap timer other rest)

theorem insertTimer_sorted (timer : Timer τ) {timers : List (Timer τ)}
    (sorted : timers.Pairwise (·.due ≤ ·.due)) :
    (insertTimer timer timers).Pairwise (·.due ≤ ·.due) := by
  induction timers with
  | nil => exact List.pairwise_singleton _ _
  | cons other rest ih =>
    obtain ⟨first, others⟩ := List.pairwise_cons.1 sorted
    rw [insertTimer]
    split
    · rename_i earlier
      refine List.pairwise_cons.2 ⟨fun later member => ?_, sorted⟩
      rcases List.mem_cons.1 member with rfl | member
      · exact Nat.le_of_lt earlier
      · exact (Nat.le_of_lt earlier).trans (first later member)
    · rename_i notEarlier
      refine List.pairwise_cons.2 ⟨fun later member => ?_, ih others⟩
      rcases List.mem_cons.1 ((insertTimer_perm timer rest).mem_iff.1 member) with rfl | member
      · exact Nat.le_of_not_lt notEarlier
      · exact first later member

/-! ## What becomes of the agenda -/

@[simp] theorem agenda_spawn (loop : EventLoop τ) (task : Task τ) :
    (loop.spawn task).agenda = task.appointment loop.now ::ₘ loop.agenda := by
  have appended : (loop.ready ++ [Turn.run task]).filterMap (·.appointment? loop.now) =
      loop.ready.filterMap (·.appointment? loop.now) ++ [task.appointment loop.now] :=
    List.filterMap_append
  rw [agenda, spawn, appended, ← Multiset.coe_add, Multiset.coe_singleton, Multiset.add_assoc,
    Multiset.singleton_add, Multiset.add_cons, agenda]

@[simp] theorem agenda_sleep (loop : EventLoop τ) (duration : Duration) (task : Task τ) :
    (loop.sleep duration task).agenda =
      task.appointment (loop.now + duration.waitMillis) ::ₘ loop.agenda := by
  have inserted := (insertTimer_perm ⟨loop.now + duration.waitMillis, task⟩ loop.timers).map
    fun timer => timer.task.appointment timer.due
  simp only [agenda, sleep, Multiset.coe_eq_coe.2 inserted, List.map_cons, ← Multiset.cons_coe,
    Multiset.add_cons]

theorem agenda_abort (owner : Nat) :
    (loop.abort owner).agenda = loop.agenda.filter (·.owner ≠ some owner) := by
  have ready (turns : List (Turn τ)) :
      (turns.map (Turn.abort owner)).filterMap (·.appointment? loop.now) =
        (turns.filterMap (·.appointment? loop.now)).filter (·.owner ≠ some owner) := by
    induction turns with
    | nil => rfl
    | cons turn rest ih =>
      cases turn with
      | drop task => simpa [Turn.abort, Turn.appointment?] using ih
      | run task =>
        by_cases owned : task.owner = some owner <;>
          simpa [Turn.abort, Turn.appointment?, Task.appointment, owned] using ih
  -- an aborted timer becomes a turn that drops its task, and this is no appointment
  have aborted (timers : List (Timer τ)) :
      (timers.map fun timer => Turn.drop timer.task).filterMap (·.appointment? loop.now) = [] := by
    simp [List.filterMap_map, Turn.appointment?]
  have kept : (loop.timers.filter (not ∘ fun timer => timer.task.owner = some owner)).map
      (fun timer => timer.task.appointment timer.due) =
        (loop.timers.map fun timer => timer.task.appointment timer.due).filter
          (·.owner ≠ some owner) := by
    rw [List.filter_map]
    simp [Function.comp_def, Task.appointment]
  simp only [agenda, abort, List.partition_eq_filter_filter, List.filterMap_append, ready, aborted,
    List.append_nil, Multiset.filter_add, Multiset.filter_coe, ← kept]

/-- Every task on the agenda is unfinished. -/
theorem exists_task_of_mem_agenda {item : Appointment τ} (member : item ∈ loop.agenda) :
    ∃ task ∈ loop.tasks, task.body = item.body := by
  rcases Multiset.mem_add.1 member with member | member
  · obtain ⟨turn, ready, appointed⟩ := List.mem_filterMap.1 (Multiset.mem_coe.1 member)
    refine ⟨turn.task, List.mem_append_left _ (List.mem_map_of_mem ready), ?_⟩
    cases turn with
    | run task =>
      cases appointed
      rfl
    | drop task => cases appointed
  · obtain ⟨timer, waiting, rfl⟩ := List.mem_map.1 (Multiset.mem_coe.1 member)
    exact ⟨timer.task, List.mem_append_right _ (List.mem_map_of_mem waiting), rfl⟩

/-- No task on the agenda was to run in the past. -/
theorem Ordered.le_due (ordered : loop.Ordered) {item : Appointment τ}
    (member : item ∈ loop.agenda) : loop.now ≤ item.due := by
  rcases Multiset.mem_add.1 member with member | member
  · obtain ⟨turn, -, appointed⟩ := List.mem_filterMap.1 (Multiset.mem_coe.1 member)
    cases turn with
    | run task =>
      cases appointed
      exact Nat.le_add_right _ _
    | drop task => cases appointed
  · obtain ⟨timer, waiting, rfl⟩ := List.mem_map.1 (Multiset.mem_coe.1 member)
    exact (ordered.ahead timer waiting).trans (Nat.le_add_right _ _)

/-- A jump of the clock that passes no task by keeps the agenda. -/
theorem agenda_wakeAt {target : Nat} (reaches : loop.canReach target = true) :
    (loop.wakeAt target).agenda = loop.agenda := by
  simp only [canReach, Bool.and_eq_true, List.isEmpty_iff, decide_eq_true_eq, List.all_eq_true]
    at reaches
  obtain ⟨⟨idle, -⟩, upcoming⟩ := reaches
  have woken : ((loop.timers.takeWhile (·.due ≤ target)).map (Turn.run ·.task)).filterMap
      (·.appointment? target) =
        (loop.timers.takeWhile (·.due ≤ target)).map
          fun timer => timer.task.appointment timer.due := by
    rw [List.filterMap_map, ← List.filterMap_eq_map]
    refine List.filterMap_congr fun timer member => ?_
    have due : timer.due = target :=
      Nat.le_antisymm (by simpa using List.mem_takeWhile_imp member)
        (upcoming timer (List.takeWhile_subset _ member))
    simp [Turn.appointment?, due]
  simp only [agenda, wakeAt, List.span_eq_takeWhile_dropWhile, idle, List.nil_append, woken,
    List.filterMap_nil, Multiset.coe_nil, Multiset.zero_add, Multiset.coe_add, ← List.map_append,
    List.takeWhile_append_dropWhile]

/-! ## Order -/

theorem Ordered.spawn (ordered : loop.Ordered) (task : Task τ) : (loop.spawn task).Ordered :=
  ⟨ordered.sorted, ordered.ahead⟩

theorem Ordered.sleep (ordered : loop.Ordered) (duration : Duration) (task : Task τ) :
    (loop.sleep duration task).Ordered where
  sorted := insertTimer_sorted _ ordered.sorted
  ahead timer member := by
    rcases List.mem_cons.1 ((insertTimer_perm _ _).mem_iff.1 member) with rfl | member
    · exact Nat.le_add_right _ _
    · exact ordered.ahead timer member

theorem Ordered.abort (ordered : loop.Ordered) (owner : Nat) : (loop.abort owner).Ordered := by
  have kept : (loop.abort owner).timers.Sublist loop.timers := by
    simp only [EventLoop.abort, List.partition_eq_filter_filter]
    exact List.filter_sublist
  exact ⟨ordered.sorted.sublist kept, fun timer member => ordered.ahead timer (kept.subset member)⟩

theorem Ordered.wakeAt (ordered : loop.Ordered) {target : Nat}
    (reaches : loop.canReach target = true) : (loop.wakeAt target).Ordered := by
  have kept : (loop.wakeAt target).timers.Sublist loop.timers := by
    simp only [EventLoop.wakeAt, List.span_eq_takeWhile_dropWhile]
    exact List.dropWhile_sublist _
  refine ⟨ordered.sorted.sublist kept, fun timer member => ?_⟩
  simp only [canReach, Bool.and_eq_true, List.all_eq_true, decide_eq_true_eq] at reaches
  exact reaches.2 timer (kept.subset member)

/-- A loop with no ready task can move to any reading up to its next timer. -/
theorem Ordered.canReach (ordered : loop.Ordered) (idle : loop.ready = []) {target : Nat}
    (ahead : loop.now ≤ target) (upTo : ∀ due, loop.nextDue? = some due → target ≤ due) :
    loop.canReach target = true := by
  simp only [EventLoop.canReach, idle, List.isEmpty_nil, Bool.true_and, Bool.and_eq_true,
    decide_eq_true_eq, List.all_eq_true]
  refine ⟨ahead, fun timer member => ?_⟩
  cases timers : loop.timers with
  | nil => simp [timers] at member
  | cons first rest =>
    have least := upTo first.due (by simp [nextDue?, timers])
    rw [timers] at member
    have sorted := ordered.sorted
    rw [timers] at sorted
    rcases List.mem_cons.1 member with rfl | member
    · exact least
    · exact least.trans ((List.pairwise_cons.1 sorted).1 timer member)

/-- A loop with no ready task can move to its next timer. -/
theorem Ordered.canReach_next (ordered : loop.Ordered) (idle : loop.ready = []) {due : Nat}
    (next : loop.nextDue? = some due) : loop.canReach due = true := by
  refine ordered.canReach idle ?_ (by simp [next])
  obtain ⟨timer, first, rfl⟩ := Option.map_eq_some_iff.1 next
  exact ordered.ahead timer (List.mem_of_mem_head? first)

/-- The agenda of a loop with a first ready task. -/
theorem agenda_ready {turn : Turn τ} {rest : List (Turn τ)} (ready : loop.ready = turn :: rest) :
    loop.agenda = ↑(turn.appointment? loop.now).toList + { loop with ready := rest }.agenda := by
  simp only [agenda, ready, List.filterMap_cons]
  cases turn.appointment? loop.now <;> simp

/-- The task whose turn comes is on the agenda. -/
theorem agenda_run {task : Task τ} {rest : List (Turn τ)} (ready : loop.ready = .run task :: rest)
    (waited : task.delay = .zero) :
    loop.agenda = ⟨loop.now, task.owner, task.body⟩ ::ₘ { loop with ready := rest }.agenda := by
  simpa [Turn.appointment?, Task.appointment, waited] using agenda_ready ready

end EventLoop

/-! ## Turns -/

namespace Reactor

variable {reactor : Reactor σ τ} {run next : Run σ τ}

/-- A turn takes a task off the ready ones. Either the agenda and the state stay as they are, or the
time of the task has come and its body is performed. -/
theorem turn?_cases (taken : reactor.turn? run = some next) :
    (next.loop.agenda = run.loop.agenda ∧ next.state = run.state ∧ next.loop.now = run.loop.now ∧
        (run.loop.Ordered → next.loop.Ordered)) ∨
      ∃ task rest, task.delay = .zero ∧ run.loop.ready = .run task :: rest ∧
        run.loop.agenda =
          ⟨run.loop.now, task.owner, task.body⟩ ::ₘ { run.loop with ready := rest }.agenda ∧
        next = reactor.perform task { run with loop := { run.loop with ready := rest } } := by
  unfold turn? at taken
  split at taken
  · cases taken
  · rename_i turn rest ready
    have first := EventLoop.agenda_ready ready
    cases turn with
    | drop task =>
      cases taken
      exact Or.inl ⟨by simpa [Turn.appointment?, Run.mapLoop] using first.symm, rfl, rfl,
        fun ordered => ⟨ordered.sorted, ordered.ahead⟩⟩
    | run task =>
      dsimp only at taken
      split at taken
      · rename_i now
        exact Or.inr ⟨task, rest, now, ready, EventLoop.agenda_run ready now,
          (Option.some.inj taken).symm⟩
      · cases taken
        have still (ordered : run.loop.Ordered) : { run.loop with ready := rest }.Ordered :=
          ⟨ordered.sorted, ordered.ahead⟩
        -- a task that goes to sleep keeps its appointment
        have asleep : ({ task with delay := .zero } : Task τ).appointment
            (run.loop.now + task.delay.waitMillis) = task.appointment run.loop.now := by
          rw [Task.appointment, Duration.waitMillis_zero, Nat.add_zero, Task.appointment]
        refine Or.inl ⟨?_, rfl, rfl, fun ordered => (still ordered).sleep _ _⟩
        rw [first, Turn.appointment?, Option.toList_some, Multiset.coe_singleton,
          Multiset.singleton_add, ← asleep]
        exact EventLoop.agenda_sleep { run.loop with ready := rest } _ _

end Reactor

end Resilience
