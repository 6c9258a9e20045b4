import Resilience.Proofs.Counter.Chains
import Resilience.Proofs.EventLoop.Moves
import Resilience.Proofs.Executor.Heedless
import Resilience.Proofs.Executor.Steps
import Mathlib.Logic.Function.Iterate

/-!
# A unit alone on its loop

On a loop without other tasks the work on a unit is a sequence of halves of attempts, each of which
is due at some time. What they come to depends neither on how the loop gets there, in sleeps and
jumps of the clock, nor on the handle that shows it.

## Main definitions

* `Half`, `Solo` — a half of an attempt, and the work on a unit that has nothing beside it
* `Executor.goOn` — the half of an attempt that is due
* `Lifecycle.Shows` — the loop and the handle of such a unit

## Main statements

* `Lifecycle.Shows.turn` — a task makes the half of an attempt that is due
* `Lifecycle.Shows.runUntil` — waiting makes one half after the other
-/

namespace Resilience

/-! ## Time that does not pass -/

theorem LocalCounter.elapse_self (counter : LocalCounter) (now : Nat) :
    counter.elapse (Instant.ofMillis now) (Instant.ofMillis now) = counter := by
  rw [elapse]
  split
  · rfl
  · rename_i tick ticked
    obtain ⟨sweeper, -, last⟩ := Option.bind_eq_some_iff.1 ticked
    rw [if_neg (Nat.not_lt.2 (Sweeper.lastTick?_le last))]

theorem World.elapse_self (world : World) (now : Nat) : world.elapse now now = world := by
  have locals : world.ledger.locals.entries.map (fun entry =>
      (entry.1, entry.2.elapse (Instant.ofMillis now) (Instant.ofMillis now))) =
      world.ledger.locals.entries := by
    simp only [LocalCounter.elapse_self, List.map_id']
  rw [elapse, Ledger.elapse, locals]

/-! ## The work on a unit -/

/-- A half of an attempt. -/
inductive Half where
  | first (prior : Nat)
  | second (prior : Nat) (outcome : Except Fault Unit)

/-- The task that makes a half of an attempt. -/
def Half.job (lifecycle : Lifecycle) : Half → Job
  | first prior => .attempt lifecycle prior
  | second prior outcome => .conclude lifecycle prior outcome

/-- The work on a unit that has nothing beside it. -/
inductive Solo where
  /-- A half of an attempt is due, in the world as it will be by then. -/
  | awaits (half : Half) (due : Nat) (world : World)
  | finished (now : Nat) (result : Except Failure Completion) (world : World)

namespace Solo

def world : Solo → World
  | awaits _ _ world | finished _ _ world => world

def isOver : Solo → Bool
  | awaits .. => false
  | finished .. => true

/-- The second half is due when the operation has ended. -/
def ofBegun (prior now : Nat) : Begun × World → Solo
  | (.ended result, world) => finished now result world
  | (.running response, world) =>
    let due := now + response.latency.waitMillis
    awaits (.second prior response.outcome) due (world.elapse now due)

/-- The next attempt is due after its delay. -/
def ofSequel (now : Nat) : Sequel × World → Solo
  | (.done result, world) => finished now result world
  | (.retry attempt delay, world) =>
    let due := now + delay.waitMillis
    awaits (.first attempt) due (world.elapse now due)

end Solo

/-- The half of an attempt that is due. -/
def Executor.goOn (executor : Executor) (unit : WorkUnit) : Solo → Solo
  | .awaits (.first prior) now world =>
    .ofBegun prior now (executor.beginAttempt unit prior now world)
  | .awaits (.second prior outcome) now world =>
    .ofSequel now (executor.endAttempt unit prior outcome now world)
  | .finished now result world => .finished now result world

/-! ## Work on a loop -/

namespace Lifecycle

/-- The loop and the handle of a unit that is alone, with the number of steps that the loop takes
until the half of an attempt that is due is made. -/
inductive Shows (lifecycle : Lifecycle) : Nat → Solo → Universe → Prop
  /-- The task is ready, and it is the time for it. -/
  | due {half : Half} {now : Nat} {world state : World} {status : Status} (owner : Option Nat)
      (alike : state.Alike world)
      (shown : state.statuses.find? lifecycle.handle = some status)
      (goesOn : status.isTerminal = false)
      (isOpen : (state.scheduler lifecycle.executor.scheduler).isShutDown = false) :
    lifecycle.Shows 0 (.awaits half now world)
      ⟨{ now, ready := [.run ⟨owner, .zero, half.job lifecycle⟩] }, state⟩
  /-- The task is ready, but it falls asleep first. -/
  | waiting {half : Half} {now : Nat} {world state : World} {status : Status} (owner : Option Nat)
      (delay : Duration) (positive : delay ≠ .zero)
      (alike : (state.elapse now (now + delay.waitMillis)).Alike world)
      (shown : state.statuses.find? lifecycle.handle = some status)
      (goesOn : status.isTerminal = false)
      (isOpen : (state.scheduler lifecycle.executor.scheduler).isShutDown = false) :
    lifecycle.Shows 2 (.awaits half (now + delay.waitMillis) world)
      ⟨{ now, ready := [.run ⟨owner, delay, half.job lifecycle⟩] }, state⟩
  | asleep {half : Half} {now due : Nat} {world state : World} {status : Status}
      (owner : Option Nat) (alike : (state.elapse now due).Alike world)
      (shown : state.statuses.find? lifecycle.handle = some status)
      (goesOn : status.isTerminal = false)
      (isOpen : (state.scheduler lifecycle.executor.scheduler).isShutDown = false) :
    lifecycle.Shows 1 (.awaits half due world)
      ⟨{ now, timers := [⟨due, ⟨owner, .zero, half.job lifecycle⟩⟩] }, state⟩
  | finished {now : Nat} {result : Except Failure Completion} {world state : World}
      (alike : state.Alike world)
      (shown : state.statuses.find? lifecycle.handle = some (.ofResult result)) :
    lifecycle.Shows 0 (.finished now result world) ⟨{ now }, state⟩

variable {lifecycle : Lifecycle} {world state : World}

/-- What follows an attempt is shown on the handle and by the loop. -/
theorem follow_shows (now : Nat) (sequel : Sequel) (alike : state.Alike world)
    (isOpen : (state.scheduler lifecycle.executor.scheduler).isShutDown = false) :
    ∃ naps ≤ 2, lifecycle.Shows naps (.ofSequel now (sequel, world))
      (lifecycle.follow sequel ⟨{ now }, state⟩) := by
  cases sequel with
  | done result =>
    exact ⟨0, by omega, .finished (alike.publish now _ _) (Table.find?_insert_self ..)⟩
  | retry attempt delay =>
    rw [follow, @postpone_of_open lifecycle ⟨{ now }, state⟩ isOpen, Solo.ofSequel]
    -- a task without a delay is due at once, and does not fall asleep
    by_cases atOnce : delay = .zero
    · subst atOnce
      refine ⟨0, by omega, ?_⟩
      simp only [Duration.waitMillis_zero, Nat.add_zero, World.elapse_self]
      exact .due _ (alike.publish now _ _) (Table.find?_insert_self ..) rfl isOpen
    · exact ⟨2, by omega, .waiting _ delay atOnce ((alike.publish now _ _).elapse now _)
        (Table.find?_insert_self ..) rfl isOpen⟩

/-- The second half of an attempt. -/
theorem conclude_shows (now prior : Nat) (outcome : Except Fault Unit) (alike : state.Alike world)
    (isOpen : (state.scheduler lifecycle.executor.scheduler).isShutDown = false) :
    ∃ naps ≤ 2, lifecycle.Shows naps
      (lifecycle.executor.goOn lifecycle.unit (.awaits (.second prior outcome) now world))
      (lifecycle.conclude prior outcome ⟨{ now }, state⟩) := by
  have schedulers := lifecycle.executor.schedulers_endAttempt lifecycle.unit prior outcome now state
  obtain ⟨sequel, state', world', here, there, alike', -⟩ :=
    alike.change_eq (lifecycle.executor.heedless_endAttempt lifecycle.unit now prior outcome)
  rw [here] at schedulers
  rw [Executor.goOn, there, conclude, here]
  refine follow_shows now sequel alike' ?_
  rw [World.scheduler_congr schedulers]
  exact isOpen

/-- The first half of an attempt, with the second one if that is due at once. -/
theorem attempt_shows (now prior : Nat) (alike : state.Alike world)
    (isOpen : (state.scheduler lifecycle.executor.scheduler).isShutDown = false) :
    ∃ made naps, 1 ≤ made ∧ naps ≤ 2 ∧ lifecycle.Shows naps
      ((lifecycle.executor.goOn lifecycle.unit)^[made] (.awaits (.first prior) now world))
      (lifecycle.attempt prior ⟨{ now }, state⟩) := by
  rw [attempt, publish, Run.mapState]
  -- the status is shown first, which nothing in the attempt looks at
  generalize shows : state.publish now lifecycle.handle
    (.inProgress (Executor.nextAttempt prior)) = showing
  have alike' : showing.Alike world := shows ▸ alike.publish now _ _
  have shown : showing.statuses.find? lifecycle.handle =
    some (.inProgress (Executor.nextAttempt prior)) := shows ▸ Table.find?_insert_self ..
  have still : (showing.scheduler lifecycle.executor.scheduler).isShutDown = false :=
    shows ▸ isOpen
  have schedulers := lifecycle.executor.schedulers_beginAttempt lifecycle.unit prior now showing
  obtain ⟨begun, state', world', here, there, after, statuses⟩ :=
    alike'.change_eq (lifecycle.executor.heedless_beginAttempt lifecycle.unit now prior)
  rw [here] at schedulers
  rw [← World.scheduler_congr schedulers] at still
  rw [← statuses] at shown
  have next : lifecycle.executor.goOn lifecycle.unit (.awaits (.first prior) now world) =
      .ofBegun prior now (begun, world') := by rw [Executor.goOn, there]
  dsimp only
  rw [here]
  cases begun with
  | ended result =>
    obtain ⟨naps, few, shows⟩ := follow_shows now (.done result) after still
    refine ⟨1, naps, Nat.le_refl 1, few, ?_⟩
    rw [Function.iterate_one, next]
    exact shows
  | running response =>
    dsimp only
    by_cases atOnce : response.latency = .zero
    · obtain ⟨naps, few, shows⟩ := conclude_shows now prior response.outcome after still
      refine ⟨2, naps, by omega, few, ?_⟩
      rw [Function.iterate_succ_apply, Function.iterate_one, next, Solo.ofBegun,
        atOnce, Duration.waitMillis_zero, Nat.add_zero, World.elapse_self, if_pos rfl]
      exact shows
    · refine ⟨1, 1, Nat.le_refl 1, by omega, ?_⟩
      rw [Function.iterate_one, next, if_neg atOnce]
      exact .asleep _ (after.elapse now _) shown rfl still

/-! ## Waiting -/

/-- A run that has come some halves of attempts further, in a number of steps of the loop. -/
def Comes (lifecycle : Lifecycle) (steps naps : Nat) (solo : Solo) (run : Universe) : Prop :=
  ∃ made naps', lifecycle.Shows naps' ((lifecycle.executor.goOn lifecycle.unit)^[made] solo) run ∧
    steps + naps' ≤ 3 * made + naps

variable {naps steps : Nat} {solo : Solo} {run next : Universe}

namespace Shows

theorem comes (shows : lifecycle.Shows naps solo run) : lifecycle.Comes 0 naps solo run :=
  ⟨0, naps, shows, by omega⟩

/-- A turn makes the half of an attempt that is due, or the task falls asleep. -/
theorem turn (shows : lifecycle.Shows naps solo run)
    (taken : World.reactor.turn? run = some next) : lifecycle.Comes 1 naps solo next := by
  cases shows with
  | @due half now world state status owner alike shown goesOn isOpen =>
    cases half with
    | first prior =>
      obtain ⟨made, naps, some, few, shows⟩ := attempt_shows now prior alike isOpen
      cases taken
      exact ⟨made, naps, shows, by omega⟩
    | second prior outcome =>
      obtain ⟨naps, few, shows⟩ := conclude_shows now prior outcome alike isOpen
      cases taken
      exact ⟨1, naps, shows, by omega⟩
  | @waiting half now world state status owner delay positive alike shown goesOn isOpen =>
    rw [Reactor.turn?] at taken
    dsimp only at taken
    rw [if_neg positive] at taken
    cases taken
    exact ⟨0, 1, .asleep owner alike shown goesOn isOpen, by omega⟩
  | asleep | finished => cases taken

/-- When no task is ready, the clock jumps to the half of an attempt that is due. -/
theorem jump (shows : lifecycle.Shows naps solo run) (idle : run.loop.ready = []) {due : Nat}
    (first : run.loop.nextDue? = some due) :
    lifecycle.Comes 1 naps solo (World.reactor.moveTo due run) := by
  cases shows with
  | due | waiting => cases idle
  | @asleep half now due world state status owner alike shown goesOn isOpen =>
    cases first
    have woken : World.reactor.moveTo due
        ⟨{ now, timers := [⟨due, ⟨owner, .zero, half.job lifecycle⟩⟩] }, state⟩ =
        ⟨{ now := due, ready := [.run ⟨owner, .zero, half.job lifecycle⟩] },
          state.elapse now due⟩ := by
      simp [Reactor.moveTo, EventLoop.wakeAt, World.reactor, List.span,
        List.span.loop]
    rw [woken]
    exact ⟨0, 0, .due owner alike shown goesOn isOpen, by omega⟩
  | finished => cases first

/-- A result is waited for as long as the work goes on. -/
theorem isSettled_eq (shows : lifecycle.Shows naps solo run) :
    World.isSettled lifecycle.handle run = solo.isOver := by
  cases shows with
  | @due half now world state status owner alike shown goesOn
  | @waiting half now world state status owner delay positive alike shown goesOn
  | @asleep half now due world state status owner alike shown goesOn =>
    cases half <;> simp [World.isSettled, World.isTracked, shown, goesOn, EventLoop.tasks,
      Turn.task, Half.job, Job.lifecycle, Solo.isOver]
  | @finished now result world state alike shown =>
    simp [World.isSettled, World.isTracked, EventLoop.tasks, Solo.isOver]

end Shows

namespace Comes

variable {more : Nat}

theorem shows_next (comes : lifecycle.Comes steps naps solo run)
    (goesOn : ∀ naps solo, lifecycle.Shows naps solo run → lifecycle.Comes more naps solo next) :
    lifecycle.Comes (steps + more) naps solo next := by
  obtain ⟨made, naps', shows, further⟩ := comes
  obtain ⟨again, naps'', shows', further'⟩ := goesOn naps' _ shows
  rw [← Function.iterate_add_apply] at shows'
  exact ⟨again + made, naps'', shows', by omega⟩

end Comes

/-- Turns until no task is ready. -/
theorem Shows.settle (turns : Nat) (shows : lifecycle.Shows naps solo run) :
    lifecycle.Comes 0 naps solo (World.reactor.settle turns run) := by
  induction turns generalizing naps solo run with
  | zero => exact shows.comes
  | succ turns ih =>
    rw [Reactor.settle]
    cases taken : World.reactor.turn? run with
    | none => exact shows.comes
    | some next =>
      obtain ⟨made, naps', shows', further⟩ :=
        (shows.turn taken).shows_next fun _ _ shows => ih shows
      exact ⟨made, naps', shows', by omega⟩

/-- While the work goes on, something happens on the loop. -/
theorem Shows.step (turns : Nat) (shows : lifecycle.Shows naps solo run)
    (goesOn : solo.isOver = false) :
    ∃ next, World.reactor.step? turns run = some next ∧
      lifecycle.Comes (min turns 1) naps solo next := by
  have ready (busy : run.loop.ready.isEmpty = false) :
      World.reactor.step? turns run = some (World.reactor.settle turns run) ∧
        lifecycle.Comes (min turns 1) naps solo (World.reactor.settle turns run) := by
    refine ⟨by rw [Reactor.step?, busy]; rfl, ?_⟩
    cases turns with
    | zero => exact shows.settle 0
    | succ turns =>
      rw [Reactor.settle]
      cases taken : World.reactor.turn? run with
      | none => exact absurd (List.isEmpty_iff.2 (Reactor.turn?_eq_none.1 taken)) (by simp [busy])
      | some next =>
        have comes := (shows.turn taken).shows_next fun _ _ shows => shows.settle turns
        rwa [Nat.min_eq_right (Nat.succ_pos turns)]
  have jumped := shows.jump
  -- the clock jumps only while the lifecycle is asleep
  cases shows with
  | due | waiting => exact ⟨_, ready rfl⟩
  | asleep =>
    obtain ⟨made, naps', shows', further⟩ := jumped rfl rfl
    exact ⟨_, rfl, made, naps', shows', by omega⟩
  | finished => cases goesOn

/-- Waiting for the result makes one half of an attempt after the other. -/
theorem Shows.runUntil (turns : Nat) (shows : lifecycle.Shows naps solo run) :
    ∃ made naps', lifecycle.Shows naps' ((lifecycle.executor.goOn lifecycle.unit)^[made] solo)
        (World.reactor.runUntil (World.isSettled lifecycle.handle) turns run) ∧
      (turns + naps' ≤ 3 * made + naps + 1 ∨
        ((lifecycle.executor.goOn lifecycle.unit)^[made] solo).isOver = true) := by
  induction turns generalizing naps solo run with
  | zero => exact ⟨0, naps, shows, .inl (by omega)⟩
  | succ turns ih =>
    rw [Reactor.runUntil, shows.isSettled_eq]
    cases finished : solo.isOver with
    | true =>
      rw [if_pos rfl]
      exact ⟨0, naps, shows, .inr finished⟩
    | false =>
      obtain ⟨next, taken, made, naps', shows', further⟩ := shows.step turns finished
      rw [if_neg Bool.false_ne_true, taken]
      cases turns with
      | zero => exact ⟨made, naps', shows', .inl (by omega)⟩
      | succ turns =>
        obtain ⟨again, naps'', shows'', enough⟩ := ih shows'
        rw [← Function.iterate_add_apply] at shows'' enough
        exact ⟨again + made, naps'', shows'', enough.imp_left fun _ => by omega⟩

end Lifecycle

end Resilience
