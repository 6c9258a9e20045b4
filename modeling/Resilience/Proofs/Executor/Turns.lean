import Resilience.Proofs.EventLoop.Moves
import Resilience.Proofs.Executor.Steps
import Resilience.Proofs.Executor.Story

/-!
# Turns of a lifecycle

When the turn of a job comes, its lifecycle passes on to another phase: it is on the agenda again,
with the job for that phase at the time the phase tells, or it has ended and its handle shows the
result. Nothing else on the agenda changes, and no other handle shows a new status.

## Main definitions

* `Phase.Stands` — what a lifecycle in a phase has on the agenda and shows on its handle
* `Lifecycle.Passes` — how a lifecycle passes on from a phase

## Main statements

* `Lifecycle.attempt_passes`, `conclude_passes`, `postpone_passes` — the turns of a lifecycle
* `World.perform_passes` — the turn of any job
* `World.reactor_punctual` — jobs take no time
-/

namespace Resilience

/-- Whether a status tells of an attempt that has begun. -/
def Status.isInProgress : Status → Bool
  | inProgress _ => true
  | pending | retryScheduled .. | completed _ | compensated _ | abandoned _ | failed _ => false

theorem Status.isTerminal_of_isInProgress {status : Status}
    (begun : status.isInProgress = true) : status.isTerminal = false := by
  cases status <;> first | rfl | cases begun

/-- What a lifecycle in a phase has on the agenda and shows on its handle. -/
def Phase.Stands (lifecycle : Lifecycle) (items : Multiset (Appointment Job)) (status : Status) :
    Phase → Prop
  | .waiting prior due =>
    (∃ owner, items = {⟨due, owner, .attempt lifecycle prior⟩}) ∧
      status.isTerminal = false ∧ status.isInProgress = false
  | .running prior outcome due =>
    (∃ owner, items = {⟨due, owner, .conclude lifecycle prior outcome⟩}) ∧
      status.isInProgress = true
  | .ended result => items = 0 ∧ status = .ofResult result
  | .absent | .calling _ | .cutOff _ => False

namespace Lifecycle

/-- A lifecycle passes on from a phase: afterwards it stands in some phase, and only its handle
shows a new status. -/
def Passes (lifecycle : Lifecycle) (before : Phase) (run next : Universe) : Prop :=
  ∃ after items status,
    Phase.Stands lifecycle items status after ∧
    next.loop.agenda = items + run.loop.agenda ∧
    next.loop.now = run.loop.now ∧
    (run.loop.Ordered → next.loop.Ordered) ∧
    next.state.statuses = run.state.statuses.insert lifecycle.handle status ∧
    ∀ surroundings,
      Story surroundings lifecycle.executor lifecycle.unit (before, run.state) (after, next.state)

variable {lifecycle : Lifecycle} {run next : Universe} {before : Phase}

/-- A story that changes the state only, and no status but that of the lifecycle, can go before. -/
theorem Passes.after_story (middle : Universe) (between : Phase)
    (told : ∀ surroundings,
      Story surroundings lifecycle.executor lifecycle.unit (before, run.state)
        (between, middle.state))
    (loop : middle.loop = run.loop)
    (statuses : ∀ status, middle.state.statuses.insert lifecycle.handle status =
      run.state.statuses.insert lifecycle.handle status)
    (passes : lifecycle.Passes between middle next) : lifecycle.Passes before run next := by
  obtain ⟨after, items, status, stands, agenda, now, ordered, shown, story⟩ := passes
  rw [loop] at agenda now ordered
  exact ⟨after, items, status, stands, agenda, now, ordered, shown.trans (statuses status),
    fun surroundings => (told surroundings).trans (story surroundings)⟩

variable (lifecycle run)

theorem story_publish (surroundings : Surroundings) (phase : Phase) (status : Status) :
    Story surroundings lifecycle.executor lifecycle.unit (phase, run.state)
      (phase, (lifecycle.publish status run).state) :=
  .single (.aside (.publish run.loop.now lifecycle.handle status) trivial)

/-- A result is shown on the handle. -/
theorem publish_passes (result : Except Failure Completion) :
    lifecycle.Passes (.ended result) run (lifecycle.publish (.ofResult result) run) :=
  ⟨.ended result, 0, .ofResult result, ⟨rfl, rfl⟩, (Multiset.zero_add _).symm, rfl, id, rfl,
    fun surroundings => lifecycle.story_publish run surroundings _ _⟩

theorem postpone_passes (attempt : Nat) (delay : Duration) :
    lifecycle.Passes (.waiting attempt (run.loop.now + delay.waitMillis)) run
      (lifecycle.postpone attempt delay run) := by
  have told := fun surroundings => lifecycle.story_publish run surroundings
    (.waiting attempt (run.loop.now + delay.waitMillis)) (.retryScheduled attempt delay)
  by_cases shut : (run.state.scheduler lifecycle.executor.scheduler).isShutDown = true
  · -- the work ends with the shutdown, and its status replaces that of the retry
    have ended := lifecycle.publish_passes
      (lifecycle.publish (.retryScheduled attempt delay) run) (.error .schedulerShutDown)
    rw [postpone_of_shut shut]
    exact .after_story _ _ (fun surroundings => (told surroundings).tail (.refused _ _ shut)) rfl
      (fun status => Table.insert_insert ..) ended
  · rw [postpone_of_open (Bool.eq_false_iff.2 shut)]
    refine ⟨.waiting attempt (run.loop.now + delay.waitMillis), _, .retryScheduled attempt delay,
      ⟨⟨some (run.state.scheduler lifecycle.executor.scheduler).id, rfl⟩, rfl, rfl⟩, ?_, rfl,
      fun ordered => ordered.spawn _, rfl, told⟩
    rw [Multiset.singleton_add]
    exact EventLoop.agenda_spawn _ _

theorem follow_passes (sequel : Sequel) :
    lifecycle.Passes (.ofSequel run.loop.now sequel) run (lifecycle.follow sequel run) := by
  cases sequel with
  | done result => exact lifecycle.publish_passes run result
  | retry attempt delay => exact lifecycle.postpone_passes run attempt delay

theorem conclude_passes (prior : Nat) (outcome : Except Fault Unit) :
    lifecycle.Passes (.running prior outcome run.loop.now) run
      (lifecycle.conclude prior outcome run) := by
  have same := lifecycle.executor.statuses_endAttempt lifecycle.unit prior outcome run.loop.now
    run.state
  let half := lifecycle.executor.endAttempt lifecycle.unit prior outcome run.loop.now run.state
  have follows := lifecycle.follow_passes { run with state := half.2 } half.1
  refine .after_story { run with state := half.2 } _ (fun surroundings => .single ?_) rfl
    (fun status => congrArg (·.insert lifecycle.handle status) same) follows
  exact .concluded prior run.loop.now outcome

variable {lifecycle run}

/-- The number of the attempt is shown, and its first half is made. -/
theorem Begins.story {prior : Nat} {begun : Begun} {world : World}
    (begins : lifecycle.Begins prior run begun world) (surroundings : Surroundings) :
    Story surroundings lifecycle.executor lifecycle.unit (.waiting prior run.loop.now, run.state)
      (.ofBegun prior run.loop.now begun, world) := by
  have begin := @Story.Step.begun surroundings lifecycle.executor lifecycle.unit
    (lifecycle.publish (.inProgress (Executor.nextAttempt prior)) run).state prior run.loop.now
  rw [begins] at begin
  exact (lifecycle.story_publish run surroundings _ _).tail begin

variable (lifecycle run)

theorem attempt_passes (prior : Nat) :
    lifecycle.Passes (.waiting prior run.loop.now) run (lifecycle.attempt prior run) := by
  -- the status at the beginning of the attempt is overwritten by the next one
  have overwritten {begun : Begun} {world : World}
      (begins : lifecycle.Begins prior run begun world) (status : Status) :
      world.statuses.insert lifecycle.handle status =
        run.state.statuses.insert lifecycle.handle status := by
    rw [begins.statuses]
    exact Table.insert_insert ..
  have comes := lifecycle.attempts prior run
  generalize lifecycle.attempt prior run = next at comes ⊢
  cases comes with
  | @ended result world begins =>
    exact .after_story { run with state := world } _ begins.story rfl (overwritten begins)
      (lifecycle.publish_passes { run with state := world } result)
  | @atOnce response world begins instant =>
    have story := begins.story
    have due : run.loop.now + response.latency.waitMillis = run.loop.now := by
      rw [instant, Duration.waitMillis_zero, Nat.add_zero]
    simp only [Phase.ofBegun, due] at story
    exact .after_story { run with state := world } _ story rfl (overwritten begins)
      (lifecycle.conclude_passes { run with state := world } prior response.outcome)
  | @lasting response world begins lasts =>
    -- the status at the beginning of the attempt stays
    refine ⟨.running prior response.outcome (run.loop.now + response.latency.waitMillis), _,
      .inProgress (Executor.nextAttempt prior), ⟨⟨some lifecycle.executor.scheduler, rfl⟩, rfl⟩,
      ?_, rfl, fun ordered => ordered.sleep _ _, begins.statuses, begins.story⟩
    rw [Multiset.singleton_add, EventLoop.agenda_sleep, Task.appointment, Duration.waitMillis_zero,
      Nat.add_zero]

end Lifecycle

/-- Whether a job is the end of an operation that is under way. -/
def Job.isUnderWay : Job → Bool
  | attempt .. => false
  | conclude .. => true

/-- The phase of a lifecycle when the turn of its job comes. -/
def Job.phase (now : Nat) : Job → Phase
  | attempt _ prior => .waiting prior now
  | conclude _ prior outcome => .running prior outcome now

namespace Phase.Stands

variable {lifecycle : Lifecycle} {items : Multiset (Appointment Job)} {item : Appointment Job}
  {status : Status} {phase : Phase}

/-- A lifecycle with a job on the agenda stands in the phase of that job and has no other one. Its
status is not terminal, and tells whether the operation is under way. -/
theorem of_mem (stands : phase.Stands lifecycle items status) (member : item ∈ items) :
    items = {item} ∧ item.body.lifecycle = lifecycle ∧ phase = item.body.phase item.due ∧
      status.isTerminal = false ∧ status.isInProgress = item.body.isUnderWay := by
  cases phase with
  | absent | calling | cutOff => exact stands.elim
  | waiting =>
    obtain ⟨⟨owner, rfl⟩, unfinished, notBegun⟩ := stands
    cases Multiset.mem_singleton.1 member
    exact ⟨rfl, rfl, rfl, unfinished, notBegun⟩
  | running =>
    obtain ⟨⟨owner, rfl⟩, begun⟩ := stands
    cases Multiset.mem_singleton.1 member
    exact ⟨rfl, rfl, rfl, Status.isTerminal_of_isInProgress begun, begun⟩
  | ended =>
    rw [stands.1] at member
    exact absurd member (Multiset.notMem_zero _)

theorem lifecycle_of_mem (stands : phase.Stands lifecycle items status) :
    ∀ item ∈ items, item.body.lifecycle = lifecycle :=
  fun _ member => (stands.of_mem member).2.1

theorem phase_of_mem (stands : phase.Stands lifecycle items status) (member : item ∈ items) :
    items = {item} ∧ phase = item.body.phase item.due :=
  have ⟨alone, _, here, _⟩ := stands.of_mem member
  ⟨alone, here⟩

theorem status_of_mem (stands : phase.Stands lifecycle items status) (member : item ∈ items) :
    status.isTerminal = false ∧ status.isInProgress = item.body.isUnderWay :=
  (stands.of_mem member).2.2.2

/-- A lifecycle has one job on the agenda at most. -/
theorem nodup (stands : phase.Stands lifecycle items status) :
    (items.map (·.body.lifecycle.handle)).Nodup := by
  cases phase with
  | absent | calling | cutOff => exact stands.elim
  | waiting | running =>
    obtain ⟨⟨owner, rfl⟩, -⟩ := stands
    exact Multiset.nodup_singleton _
  | ended =>
    rw [stands.1]
    exact Multiset.nodup_zero

theorem isRegular (stands : phase.Stands lifecycle items status) :
    phase.isRegular = true := by
  cases phase <;> first | rfl | exact stands.elim

/-- A lifecycle with a job on the agenda has not ended, and a shutdown can cut it off. -/
theorem cut_of_mem (stands : phase.Stands lifecycle items status) (member : item ∈ items) :
    status.isTerminal = false ∧ ∀ surroundings executor unit world,
      Story.Step surroundings executor unit (phase, world)
        (.cutOff status.isInProgress, world) := by
  obtain ⟨due, owner, body⟩ := item
  obtain ⟨-, -, rfl, unfinished, begun⟩ := stands.of_mem member
  refine ⟨unfinished, fun _ _ _ _ => ?_⟩
  rw [begun]
  cases body with
  | attempt _ prior => exact .cutWaiting prior due
  | conclude _ prior outcome => exact .cutRunning prior outcome due

end Phase.Stands

namespace World

/-- When the turn of a job comes, its lifecycle passes on from the phase of the job. -/
theorem perform_passes (owner : Option Nat) (delay : Duration) (body : Job) (run : Universe) :
    body.lifecycle.Passes (body.phase run.loop.now) run
      (reactor.perform ⟨owner, delay, body⟩ run) := by
  cases body with
  | attempt lifecycle prior => exact lifecycle.attempt_passes run prior
  | conclude lifecycle prior outcome => exact lifecycle.conclude_passes run prior outcome

theorem reactor_punctual : reactor.Punctual where
  now task run := by
    obtain ⟨_, _, _, _, _, now, _⟩ := perform_passes task.owner task.delay task.body run
    exact now
  ordered task run := by
    obtain ⟨_, _, _, _, _, _, ordered, _⟩ := perform_passes task.owner task.delay task.body run
    exact ordered

end World

end Resilience
