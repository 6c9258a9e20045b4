import Resilience.Proofs.Executor.Calls

/-!
# Tasks and their schedulers

The tasks of a lifecycle belong to the scheduler of its executor. A task that is new on the agenda
follows another one of the same lifecycle, or its scheduler accepted it. So when a scheduler is shut
down none of its tasks is still to run, and whatever happens afterwards, it gets no new one.

## Main definitions

* `Lifecycle.Owns` — a task of a lifecycle, accepted by its scheduler
* `World.Hosts` — what a move does with the tasks of schedulers
* `World.Orderly` — every task belongs to the scheduler of its lifecycle, which accepts tasks
* `World.IsShut` — a scheduler that was shut down

## Main statements

* `Scene.hosts_after` — what every move does with the tasks of schedulers
* `World.Orderly.of_hosts` — moves keep the order
* `World.Orderly.gone` — no task of a scheduler that was shut down is still to run
* `World.IsShut.of_hosts` — a scheduler that was shut down stays so
-/

namespace Resilience

/-- The schedulers are known by their own numbers. -/
def World.NumbersSchedulers (world : World) : Prop := ∀ id, (world.scheduler id).id = id

theorem World.NumbersSchedulers.of_same {world later : World} (numbered : world.NumbersSchedulers)
    (same : later.schedulers = world.schedulers) : later.NumbersSchedulers := by
  intro id
  rw [World.scheduler_congr same]
  exact numbered id

/-! ## Tasks of a lifecycle -/

namespace Lifecycle

variable {lifecycle : Lifecycle} {run middle next : Universe}

/-- A task of a lifecycle, accepted by its scheduler. -/
def Owns (lifecycle : Lifecycle) (item : Appointment Job) : Prop :=
  item.body.lifecycle = lifecycle ∧ item.owner = some lifecycle.executor.scheduler

/-- The schedulers stay as they are, and all tasks that are new are those of a lifecycle. -/
structure Stays (lifecycle : Lifecycle) (run next : Universe) : Prop where
  schedulers : next.state.schedulers = run.state.schedulers
  newcomers : ∀ item ∈ next.loop.agenda, item ∈ run.loop.agenda ∨ lifecycle.Owns item

theorem Stays.of_same (loop : next.loop = run.loop)
    (schedulers : next.state.schedulers = run.state.schedulers) : lifecycle.Stays run next :=
  ⟨schedulers, fun _ member => .inl (loop ▸ member)⟩

theorem Stays.trans (first : lifecycle.Stays run middle) (second : lifecycle.Stays middle next) :
    lifecycle.Stays run next where
  schedulers := second.schedulers.trans first.schedulers
  newcomers item member := (second.newcomers item member).elim (first.newcomers item) .inr

theorem Stays.spawn {task : Task Job} (about : task.body.lifecycle = lifecycle)
    (owner : task.owner = some lifecycle.executor.scheduler)
    (loop : next.loop = run.loop.spawn task)
    (schedulers : next.state.schedulers = run.state.schedulers) : lifecycle.Stays run next where
  schedulers := schedulers
  newcomers item member := by
    rw [loop, EventLoop.agenda_spawn] at member
    rcases Multiset.mem_cons.1 member with rfl | member
    · exact .inr ⟨about, owner⟩
    · exact .inl member

theorem postpone_stays (numbered : run.state.NumbersSchedulers) (attempt : Nat)
    (delay : Duration) : lifecycle.Stays run (lifecycle.postpone attempt delay run) := by
  by_cases shut : (run.state.scheduler lifecycle.executor.scheduler).isShutDown = true
  · rw [postpone_of_shut shut]
    exact .of_same rfl rfl
  · rw [postpone_of_open (Bool.eq_false_iff.2 shut)]
    exact .spawn rfl (congrArg some (numbered _)) rfl rfl

theorem conclude_stays (numbered : run.state.NumbersSchedulers) (prior : Nat)
    (outcome : Except Fault Unit) : lifecycle.Stays run (lifecycle.conclude prior outcome run) := by
  have schedulers := lifecycle.executor.schedulers_endAttempt lifecycle.unit prior outcome
    run.loop.now run.state
  rw [conclude]
  generalize lifecycle.executor.endAttempt lifecycle.unit prior outcome run.loop.now run.state =
    half at schedulers ⊢
  obtain ⟨sequel, world⟩ := half
  dsimp only at schedulers ⊢
  cases sequel with
  | done result => exact .of_same rfl schedulers
  | retry attempt delay =>
    have concluded : lifecycle.Stays run { run with state := world } := .of_same rfl schedulers
    exact concluded.trans (postpone_stays (numbered.of_same schedulers) attempt delay)

theorem attempt_stays (numbered : run.state.NumbersSchedulers) (prior : Nat) :
    lifecycle.Stays run (lifecycle.attempt prior run) := by
  have comes := lifecycle.attempts prior run
  generalize lifecycle.attempt prior run = next at comes ⊢
  cases comes with
  | ended begins => exact .of_same rfl begins.schedulers
  | @atOnce response world begins =>
    have began : lifecycle.Stays run { run with state := world } :=
      .of_same rfl begins.schedulers
    exact began.trans (conclude_stays (numbered.of_same begins.schedulers) prior response.outcome)
  | lasting begins =>
    refine ⟨begins.schedulers, fun item member => ?_⟩
    rw [EventLoop.agenda_sleep] at member
    rcases Multiset.mem_cons.1 member with rfl | member
    · exact .inr ⟨rfl, rfl⟩
    · exact .inl member

end Lifecycle

namespace World

variable {run next : Universe}

/-- A job leaves the schedulers alone, and what it adds is for the same lifecycle. -/
theorem perform_stays (numbered : run.state.NumbersSchedulers) (task : Task Job) :
    task.body.lifecycle.Stays run (reactor.perform task run) := by
  obtain ⟨owner, delay, body⟩ := task
  cases body with
  | attempt lifecycle prior => exact Lifecycle.attempt_stays numbered prior
  | conclude lifecycle prior outcome => exact Lifecycle.conclude_stays numbered prior outcome

/-! ## What moves do with tasks -/

/-- What a move does with the tasks of schedulers. Every task that is new on the agenda belongs to
the scheduler of its lifecycle, which had a task before or is new to a scheduler that accepts tasks;
and one of the schedulers may be shut down, with none of its tasks left if it was not before. -/
structure Hosts (run next : Universe) : Prop where
  schedulers : next.state.schedulers = run.state.schedulers ∨
    ∃ id, next.state.schedulers =
        run.state.schedulers.insert id { run.state.scheduler id with isShutDown := true } ∧
      ((run.state.scheduler id).isShutDown = true ∨
        ∀ item ∈ next.loop.agenda, item.owner ≠ some (run.state.scheduler id).id)
  newcomers : ∀ item ∈ next.loop.agenda, item ∈ run.loop.agenda ∨
    item.body.lifecycle.Owns item ∧
      ((∃ old ∈ run.loop.agenda, old.body.lifecycle = item.body.lifecycle) ∨
        (run.state.scheduler item.body.lifecycle.executor.scheduler).isShutDown = false)

theorem Hosts.of_subset (schedulers : next.state.schedulers = run.state.schedulers)
    (fewer : next.loop.agenda ⊆ run.loop.agenda) : Hosts run next :=
  ⟨.inl schedulers, fun _ member => .inl (fewer member)⟩

/-- A lifecycle that its scheduler accepts may get a task. -/
theorem Hosts.of_stays {lifecycle : Lifecycle} (stays : lifecycle.Stays run next)
    (accepts : (run.state.scheduler lifecycle.executor.scheduler).isShutDown = false) :
    Hosts run next where
  schedulers := .inl stays.schedulers
  newcomers item member := by
    rcases stays.newcomers item member with old | ⟨rfl, owner⟩
    · exact .inl old
    · exact .inr ⟨⟨rfl, owner⟩, .inr accepts⟩

theorem Hosts.turn? (numbered : run.state.NumbersSchedulers)
    (taken : reactor.turn? run = some next) : Hosts run next := by
  rcases Reactor.turn?_cases taken with ⟨agenda, state, -, -⟩ | ⟨task, rest, -, -, agenda, rfl⟩
  · exact .of_subset (congrArg _ state) (fun _ member => agenda ▸ member)
  · -- what the task adds follows it, and it was on the agenda itself
    obtain ⟨schedulers, newcomers⟩ := @perform_stays
      { run with loop := { run.loop with ready := rest } } numbered task
    refine ⟨.inl schedulers, fun item member => ?_⟩
    rcases newcomers item member with old | owns
    · rw [agenda]
      exact .inl (Multiset.mem_cons_of_mem old)
    · refine .inr ⟨owns.1 ▸ owns, .inl ⟨⟨run.loop.now, task.owner, task.body⟩, ?_, owns.1.symm⟩⟩
      rw [agenda]
      exact Multiset.mem_cons_self _ _

theorem Hosts.move (numbered : run.state.NumbersSchedulers) (move : LoopMove) :
    Hosts run (reactor.move run move) := by
  have comes := reactor.comes run move
  generalize reactor.move run move = next at comes ⊢
  cases comes with
  | still => exact .of_subset rfl fun _ member => member
  | turned taken => exact .turn? numbered taken
  | jumped reaches =>
    refine .of_subset rfl fun item member => ?_
    rw [← EventLoop.agenda_wakeAt reaches]
    exact member

theorem Hosts.shutDown (id : Nat) (run : Universe) : Hosts run (World.shutDown id run) := by
  have schedulers := schedulers_shutDown id run
  by_cases shut : (run.state.scheduler id).isShutDown = true
  · have loop := loop_shutDown_of_shut shut
    exact ⟨.inr ⟨id, schedulers, .inl shut⟩, fun _ member => .inl (loop ▸ member)⟩
  · have left (item : Appointment Job) (member : item ∈ (World.shutDown id run).loop.agenda) :
        item ∈ run.loop.agenda ∧ item.owner ≠ some (run.state.scheduler id).id := by
      rw [loop_shutDown_of_open (Bool.eq_false_iff.2 shut), EventLoop.agenda_abort] at member
      simpa using Multiset.mem_filter.1 member
    exact ⟨.inr ⟨id, schedulers, .inr fun item member => (left item member).2⟩,
      fun item member => .inl (left item member).1⟩

/-! ## Order among tasks -/

/-- Every task that is still to run belongs to the scheduler of its lifecycle, which has not been
shut down. -/
structure Orderly (run : Universe) : Prop where
  numbered : run.state.NumbersSchedulers
  owned : ∀ item ∈ run.loop.agenda, item.body.lifecycle.Owns item
  served : ∀ item ∈ run.loop.agenda,
    (run.state.scheduler item.body.lifecycle.executor.scheduler).isShutDown = false

theorem scheduler_of_insert {world later : World} {id : Nat} {scheduler : Scheduler}
    (same : later.schedulers = world.schedulers.insert id scheduler) :
    later.scheduler id = scheduler ∧
      ∀ other, other ≠ id → later.scheduler other = world.scheduler other := by
  constructor
  · rw [World.scheduler, same, Table.find?_insert_self]
    rfl
  · intro other apart
    rw [World.scheduler, same, Table.find?_insert_ne _ _ apart, World.scheduler]

theorem Orderly.of_hosts (orderly : Orderly run) (hosts : Hosts run next) : Orderly next := by
  -- before the move the scheduler of each task accepted tasks
  have accepted (item : Appointment Job) (member : item ∈ next.loop.agenda) :
      (run.state.scheduler item.body.lifecycle.executor.scheduler).isShutDown = false := by
    rcases hosts.newcomers item member with old | ⟨-, ⟨old, planned, same⟩ | accepts⟩
    · exact orderly.served item old
    · exact same ▸ orderly.served old planned
    · exact accepts
  have owned (item : Appointment Job) (member : item ∈ next.loop.agenda) :
      item.body.lifecycle.Owns item :=
    (hosts.newcomers item member).elim (orderly.owned item) (·.1)
  rcases hosts.schedulers with same | ⟨id, inserted, cut⟩
  · refine ⟨orderly.numbered.of_same same, owned, fun item member => ?_⟩
    rw [scheduler_congr same]
    exact accepted item member
  · obtain ⟨here, there⟩ := scheduler_of_insert inserted
    refine ⟨fun other => ?_, owned, fun item member => ?_⟩
    · by_cases same : other = id
      · rw [same, here]
        exact orderly.numbered id
      · rw [there other same]
        exact orderly.numbered other
    · -- a task of the scheduler that is shut down would have been cut off
      have apart : item.body.lifecycle.executor.scheduler ≠ id := by
        intro same
        rcases cut with shut | cut
        · have accepts := accepted item member
          rw [same, shut] at accepts
          cases accepts
        · refine cut item member ?_
          rw [orderly.numbered, ← same]
          exact (owned item member).2
      rw [there _ apart]
      exact accepted item member

/-! ## Schedulers that were shut down -/

/-- The scheduler of a number was shut down. -/
def IsShut (world : World) (id : Nat) : Prop := world.schedulers.find? id = some ⟨id, true⟩

theorem IsShut.scheduler {world : World} {id : Nat} (shut : world.IsShut id) :
    world.scheduler id = ⟨id, true⟩ := by
  rw [World.scheduler, shut]
  rfl

/-- A scheduler that was shut down stays so. -/
theorem IsShut.of_hosts {id : Nat} (shut : run.state.IsShut id) (hosts : Hosts run next) :
    next.state.IsShut id := by
  rcases hosts.schedulers with same | ⟨other, inserted, -⟩
  · rw [IsShut, same]
    exact shut
  · by_cases same : id = other
    · rw [IsShut, inserted, ← same, Table.find?_insert_self, shut.scheduler]
    · rw [IsShut, inserted, Table.find?_insert_ne _ _ same]
      exact shut

/-- No task of a scheduler that was shut down is still to run. -/
theorem Orderly.gone (orderly : Orderly run) {id : Nat} (shut : run.state.IsShut id) :
    ∀ item ∈ run.loop.agenda,
      item.owner ≠ some id ∧ item.body.lifecycle.executor.scheduler ≠ id := by
  intro item member
  have apart : item.body.lifecycle.executor.scheduler ≠ id := by
    intro same
    have accepts := orderly.served item member
    rw [same, shut.scheduler] at accepts
    cases accepts
  refine ⟨fun owner => ?_, apart⟩
  rw [(orderly.owned item member).2] at owner
  exact apart (Option.some.inj owner)

end World

/-! ## Tasks in a scene -/

/-- Whether a move leaves it to shutdowns to change schedulers. -/
def Move.SparesSchedulers : Move → Prop
  | intervene change => ∀ world, (change world).schedulers = world.schedulers
  | loop _ | submit .. | enter .. | leave _ | shutDown _ => True

namespace Scene

variable {scene : Scene}

/-- The end of a call adds a task and a handle for its unit at most. -/
theorem Concludes.stays {visit : Visit} {next : Scene} (concludes : scene.Concludes visit next)
    (numbered : scene.run.state.NumbersSchedulers) :
    ∃ handle, Lifecycle.Stays ⟨visit.executor, visit.unit, handle⟩ scene.run next.run ∧
      next.handles ⊆ ⟨visit.executor, visit.unit, handle⟩ :: scene.handles := by
  have schedulers := visit.executor.schedulers_endAttempt visit.unit 0 visit.outcome
    scene.run.loop.now scene.run.state
  cases concludes with
  | done ended =>
    rw [ended] at schedulers
    exact ⟨0, .of_same rfl schedulers, List.subset_cons_self _ _⟩
  | @retry attempt delay world lifecycle ended handed =>
    rw [ended] at schedulers
    have entered : lifecycle.Stays scene.run
        (lifecycle.publish .pending { scene.run with state := world }) :=
      .of_same rfl schedulers
    have stays := entered.trans
      (Lifecycle.postpone_stays (numbered.of_same schedulers) attempt delay)
    cases handed
    exact ⟨scene.run.state.freshHandle, stays,
      (List.perm_append_singleton _ scene.handles).subset⟩

/-- After a shutdown the end of a call adds no task, and a handle that it gives out shows the
shutdown. -/
theorem Concludes.of_shut {visit : Visit} {next : Scene} (concludes : scene.Concludes visit next)
    (shut : (scene.run.state.scheduler visit.executor.scheduler).isShutDown = true) :
    next.run.loop = scene.run.loop ∧
      ∀ lifecycle ∈ next.handles, lifecycle ∈ scene.handles ∨
        next.run.state.statuses.find? lifecycle.handle = some (.failed .schedulerShutDown) := by
  have schedulers := visit.executor.schedulers_endAttempt visit.unit 0 visit.outcome
    scene.run.loop.now scene.run.state
  cases concludes with
  | done => exact ⟨rfl, fun _ given => .inl given⟩
  | @retry attempt delay world lifecycle ended handed =>
    rw [ended] at schedulers
    -- the handle is new, but its unit is never tried again
    have still : (world.scheduler lifecycle.executor.scheduler).isShutDown = true := by
      rw [World.scheduler_congr schedulers, handed]
      exact shut
    have refused := @Lifecycle.postpone_of_shut lifecycle
      (lifecycle.publish .pending { scene.run with state := world }) still attempt delay
    rw [refused]
    refine ⟨rfl, fun other given => ?_⟩
    rcases List.mem_append.1 given with old | new
    · exact .inl old
    · cases List.mem_singleton.1 new
      exact .inr (Table.find?_insert_self ..)

/-- What a move does with the tasks of schedulers. -/
theorem hosts_after (numbered : scene.run.state.NumbersSchedulers) {move : Move}
    (spares : move.SparesSchedulers) : World.Hosts scene.run (scene.after move).run := by
  have comes := scene.comes move
  generalize scene.after move = next at comes ⊢
  cases comes with
  | looped => exact .move numbered _
  | refused | missing => exact .of_subset rfl fun _ member => member
  | @accepted executor unit lifecycle accepts handed =>
    have spawned : lifecycle.Stays scene.run
        (lifecycle.publish .pending
          { scene.run with
            loop := scene.run.loop.spawn
              { owner := some (scene.run.state.scheduler executor.scheduler).id
                body := .attempt lifecycle 0 } }) :=
      .spawn rfl (by rw [numbered, handed]) rfl rfl
    exact .of_stays spawned (by rw [handed]; exact accepts)
  | @answered executor unit _ _ begun | @entered executor unit _ _ begun =>
    have schedulers := executor.schedulers_beginAttempt unit 0 scene.run.loop.now scene.run.state
    rw [begun] at schedulers
    exact .of_subset schedulers fun _ member => member
  | @left _ visit next _ concludes =>
    obtain ⟨handle, stays, -⟩ := concludes.stays numbered
    -- a retry is a new task of the scheduler, unless that was shut down
    by_cases shut : (scene.run.state.scheduler visit.executor.scheduler).isShutDown = true
    · exact .of_subset stays.schedulers fun _ member => (concludes.of_shut shut).1 ▸ member
    · exact .of_stays stays (Bool.eq_false_iff.2 shut)
  | shut => exact .shutDown _ scene.run
  | intervened => exact .of_subset (spares _) fun _ member => member

end Scene

end Resilience
