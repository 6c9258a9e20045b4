import Resilience.Proofs.EventLoop.Matching
import Resilience.Proofs.Executor.Handles
import Resilience.Proofs.Executor.Likewise

/-!
# Compensations that stand in for others

A compensation runs when a unit is given up and at no other time. If another one gives the same
result then, leaves the same sources and has the journal tell the same, in some sense that goes on
to hold when both journals grow by the same entries, it can stand in for the first wherever that is
used: the same moves are made in two scenes, by executors of which one has a stand-in where the
other has the compensation itself, and the scenes differ in nothing but their journals, which tell
the same.

## Main definitions

* `Substitution` — compensations with their stand-ins, and journals that tell the same
* `Substitution.Worlds`, `Executors`, `Jobs`, `Universes`, `Moves`, `Scenes` — everything else in
  which stand-ins occur

## Main statements

* `Substitution.Executors.endAttempt` — attempts come to the same
* `Substitution.respects` — so do the tasks of a loop
* `Substitution.Scenes.play` — scenes go on in the same way
* `Substitution.Universes.wait`, `Executors.execute`, `Executors.process` — everybody gets the same
* `Substitution.unnoticed` — nobody notices a stand-in who sees no more than the journals tell
-/

namespace Resilience

/-- Compensations with their stand-ins, and journals that tell the same. Whatever tells the same
goes on to do so, and giving up a unit comes to the same. -/
structure Substitution where
  compensations : Compensation → Compensation → Prop
  journals : Array JournalEntry → Array JournalEntry → Prop
  refl : ∀ journal, journals journal journal
  trans : ∀ {first second third}, journals first second → journals second third →
    journals first third
  append : ∀ {first second third fourth}, journals first second → journals third fourth →
    journals (first ++ third) (second ++ fourth)
  giveUp : ∀ {first second}, compensations first second →
    ∀ (executor : Executor) unit setback attempts now world,
      (executor.giveUp unit setback attempts (some first) now world).1 =
          (executor.giveUp unit setback attempts (some second) now world).1 ∧
        (executor.giveUp unit setback attempts (some first) now world).2.Coincide
          (executor.giveUp unit setback attempts (some second) now world).2 ∧
        journals (executor.giveUp unit setback attempts (some first) now world).2.journal
          (executor.giveUp unit setback attempts (some second) now world).2.journal

namespace Substitution

variable {swap : Substitution}

/-! ## Worlds -/

variable (swap) in
/-- Worlds that differ in their journals only, which tell the same. -/
structure Worlds (first second : World) : Prop where
  coincide : first.Coincide second
  journal : swap.journals first.journal second.journal

namespace Worlds

variable {α : Type} {first second third : World}

theorem refl (world : World) : swap.Worlds world world := ⟨.refl world, swap.refl _⟩

theorem trans (here : swap.Worlds first second) (there : swap.Worlds second third) :
    swap.Worlds first third :=
  ⟨here.coincide.trans there.coincide, swap.trans here.journal there.journal⟩

/-- Heedless changes come to the same and add the same entries. -/
theorem change (worlds : swap.Worlds first second) {change : World → α × World}
    (heeds : World.Heedless change) :
    (change first).1 = (change second).1 ∧ swap.Worlds (change first).2 (change second).2 := by
  obtain ⟨same, coincide⟩ := worlds.coincide.change heeds
  obtain ⟨new, told⟩ := heeds first
  have here : change first = _ := told first.statuses first.journal
  have there := told first.statuses second.journal
  rw [← worlds.coincide.eq_retold] at there
  refine ⟨same, coincide, ?_⟩
  rw [here, there]
  exact swap.append worlds.journal (swap.refl new)

theorem publish (worlds : swap.Worlds first second) (now handle : Nat) (status : Status) :
    swap.Worlds (first.publish now handle status) (second.publish now handle status) := by
  refine ⟨worlds.coincide.publish now handle status, ?_⟩
  simp only [World.publish, World.record]
  rw [Array.push_eq_append, Array.push_eq_append]
  exact swap.append worlds.journal (swap.refl _)

/-- Changes from outside leave the journals as they are. -/
theorem alter (worlds : swap.Worlds first second) {change other : World → World}
    (same : (change first).Coincide (other second)) :
    swap.Worlds (first.alter change) (second.alter other) := by
  refine ⟨?_, worlds.journal⟩
  simp only [World.alter]
  rw [same.eq_retold, worlds.coincide.statuses]
  rfl

theorem elapse (worlds : swap.Worlds first second) (before after : Nat) :
    swap.Worlds (first.elapse before after) (second.elapse before after) :=
  worlds.alter (worlds.coincide.elapse before after)

theorem setScheduler (worlds : swap.Worlds first second) (id : Nat) (scheduler : Scheduler) :
    swap.Worlds { first with schedulers := first.schedulers.insert id scheduler }
      { second with schedulers := second.schedulers.insert id scheduler } := by
  refine ⟨?_, worlds.journal⟩
  rw [worlds.coincide.eq_retold]
  rfl

end Worlds

/-! ## Attempts -/

variable (swap) in
/-- An executor that has the stand-in where another has the compensation. -/
inductive Executors (executor : Executor) : Executor → Prop
  | compensatedBy {compensation : Option Compensation}
      (alike : Option.Rel swap.compensations executor.handler.compensation compensation) :
    Executors executor (executor.compensatedBy compensation)

namespace Executors

variable {first second : Executor} {world other : World}

theorem scheduler (executors : swap.Executors first second) :
    first.scheduler = second.scheduler := by
  cases executors with
  | compensatedBy => rfl

theorem beginAttempt (executors : swap.Executors first second) (worlds : swap.Worlds world other)
    (unit : WorkUnit) (prior now : Nat) :
    (first.beginAttempt unit prior now world).1 = (second.beginAttempt unit prior now other).1 ∧
      swap.Worlds (first.beginAttempt unit prior now world).2
        (second.beginAttempt unit prior now other).2 := by
  cases executors with
  | compensatedBy => exact worlds.change (first.heedless_beginAttempt unit now prior)

/-- Giving up a unit with a stand-in comes to the same. -/
theorem giveUp {compensation stand : Option Compensation}
    (alike : Option.Rel swap.compensations compensation stand) (executor : Executor)
    (unit : WorkUnit) (setback : Setback) (attempts now : Nat) (world : World) :
    (executor.giveUp unit setback attempts compensation now world).1 =
        (executor.giveUp unit setback attempts stand now world).1 ∧
      swap.Worlds (executor.giveUp unit setback attempts compensation now world).2
        (executor.giveUp unit setback attempts stand now world).2 := by
  cases alike with
  | none => exact ⟨rfl, .refl _⟩
  | some alike =>
    obtain ⟨result, coincide, journal⟩ := swap.giveUp alike executor unit setback attempts now world
    exact ⟨result, coincide, journal⟩

/-- Attempts with a stand-in come to the same. -/
theorem endAttempt (executors : swap.Executors first second) (worlds : swap.Worlds world other)
    (unit : WorkUnit) (prior : Nat) (outcome : Except Fault Unit) (now : Nat) :
    (first.endAttempt unit prior outcome now world).1 =
        (second.endAttempt unit prior outcome now other).1 ∧
      swap.Worlds (first.endAttempt unit prior outcome now world).2
        (second.endAttempt unit prior outcome now other).2 := by
  -- once the stand-in finds the same world, it is enough to compare it there
  have moved := worlds.change (second.heedless_endAttempt unit now prior outcome)
  rw [← moved.1]
  suffices here : (first.endAttempt unit prior outcome now world).1 =
      (second.endAttempt unit prior outcome now world).1 ∧
    swap.Worlds (first.endAttempt unit prior outcome now world).2
      (second.endAttempt unit prior outcome now world).2 from ⟨here.1, here.2.trans moved.2⟩
  cases executors with
  | compensatedBy alike =>
    rcases first.endAttempt_compensatedBy unit prior outcome now world with
      equal | ⟨setback, attempt, later, gaveUp⟩
    · rw [equal]
      exact ⟨rfl, .refl _⟩
    · have here : first.endAttempt unit prior outcome now world = _ :=
        gaveUp first.handler.compensation
      rw [here, gaveUp]
      obtain ⟨result, left⟩ := giveUp alike first unit setback attempt now later
      exact ⟨congrArg Sequel.done result, left⟩

end Executors

/-! ## Tasks -/

variable (swap) in
/-- Lifecycles whose executors have stand-ins. -/
structure Lifecycles (first second : Lifecycle) : Prop where
  executor : swap.Executors first.executor second.executor
  unit : first.unit = second.unit
  handle : first.handle = second.handle

variable (swap) in
/-- The same part of an attempt. -/
inductive Jobs : Job → Job → Prop
  | attempt {first second : Lifecycle} (lifecycles : swap.Lifecycles first second) (prior : Nat) :
    Jobs (.attempt first prior) (.attempt second prior)
  | conclude {first second : Lifecycle} (lifecycles : swap.Lifecycles first second) (prior : Nat)
      (outcome : Except Fault Unit) :
    Jobs (.conclude first prior outcome) (.conclude second prior outcome)

theorem Jobs.lifecycle {first second : Job} (jobs : swap.Jobs first second) :
    swap.Lifecycles first.lifecycle second.lifecycle := by
  cases jobs with
  | attempt lifecycles | conclude lifecycles => exact lifecycles

variable (swap) in
/-- Runs with the same tasks. -/
abbrev Universes (first second : Universe) : Prop := Run.Matches swap.Worlds swap.Jobs first second

theorem Universes.of_state {first second : Universe} (runs : swap.Universes first second)
    {world other : World} (worlds : swap.Worlds world other) :
    swap.Universes { first with state := world } { second with state := other } :=
  ⟨runs.loop, worlds⟩

namespace Lifecycles

variable {first second : Lifecycle} {run other : Universe}

theorem publish (lifecycles : swap.Lifecycles first second) (runs : swap.Universes run other)
    (status : Status) :
    swap.Universes (first.publish status run) (second.publish status other) := by
  refine ⟨runs.loop, ?_⟩
  have shown := runs.state.publish run.loop.now first.handle status
  rw [lifecycles.handle, runs.loop.now] at shown
  rw [Lifecycle.publish, Lifecycle.publish, lifecycles.handle, runs.loop.now]
  exact shown

/-- Schedulers accept an attempt in the same way. -/
theorem spawn (lifecycles : swap.Lifecycles first second) (runs : swap.Universes run other)
    (attempt : Nat) (delay : Duration) :
    (run.loop.spawn
      { owner := some (run.state.scheduler first.executor.scheduler).id, delay
        body := .attempt first attempt }).Matches swap.Jobs
    (other.loop.spawn
      { owner := some (other.state.scheduler second.executor.scheduler).id, delay
        body := .attempt second attempt }) := by
  refine runs.loop.spawn ⟨?_, rfl, .attempt lifecycles attempt⟩
  rw [lifecycles.executor.scheduler, runs.state.coincide.scheduler]

theorem postpone (lifecycles : swap.Lifecycles first second) (runs : swap.Universes run other)
    (attempt : Nat) (delay : Duration) :
    swap.Universes (first.postpone attempt delay run) (second.postpone attempt delay other) := by
  have shown := lifecycles.publish runs (.retryScheduled attempt delay)
  have scheduler : run.state.scheduler first.executor.scheduler =
      other.state.scheduler second.executor.scheduler := by
    rw [lifecycles.executor.scheduler, runs.state.coincide.scheduler]
  by_cases shut : (run.state.scheduler first.executor.scheduler).isShutDown = true
  · rw [Lifecycle.postpone_of_shut shut, Lifecycle.postpone_of_shut (scheduler ▸ shut)]
    exact lifecycles.publish shown _
  · rw [Lifecycle.postpone_of_open (Bool.eq_false_iff.2 shut),
      Lifecycle.postpone_of_open (scheduler ▸ Bool.eq_false_iff.2 shut)]
    exact ⟨lifecycles.spawn runs attempt delay, shown.state⟩

theorem follow (lifecycles : swap.Lifecycles first second) (runs : swap.Universes run other)
    (sequel : Sequel) :
    swap.Universes (first.follow sequel run) (second.follow sequel other) := by
  cases sequel with
  | done result => exact lifecycles.publish runs _
  | retry attempt delay => exact lifecycles.postpone runs attempt delay

theorem conclude (lifecycles : swap.Lifecycles first second) (runs : swap.Universes run other)
    (prior : Nat) (outcome : Except Fault Unit) :
    swap.Universes (first.conclude prior outcome run) (second.conclude prior outcome other) := by
  obtain ⟨same, worlds⟩ :=
    lifecycles.executor.endAttempt runs.state first.unit prior outcome run.loop.now
  rw [Lifecycle.conclude, Lifecycle.conclude, ← lifecycles.unit, ← runs.loop.now]
  dsimp only
  rw [same]
  exact lifecycles.follow (runs.of_state worlds) _

theorem attempt (lifecycles : swap.Lifecycles first second) (runs : swap.Universes run other)
    (prior : Nat) :
    swap.Universes (first.attempt prior run) (second.attempt prior other) := by
  have shown := lifecycles.publish runs (.inProgress (Executor.nextAttempt prior))
  rw [Lifecycle.attempt, Lifecycle.attempt]
  generalize first.publish _ run = here, second.publish _ other = there at shown
  obtain ⟨same, worlds⟩ :=
    lifecycles.executor.beginAttempt shown.state first.unit prior here.loop.now
  rw [← lifecycles.unit, ← shown.loop.now]
  dsimp only
  rw [← same]
  have begun := shown.of_state worlds
  cases (first.executor.beginAttempt first.unit prior here.loop.now here.state).1 with
  | ended result => exact lifecycles.follow begun _
  | running response =>
    dsimp only
    split
    · exact lifecycles.conclude begun prior _
    · refine ⟨begun.loop.sleep _ ⟨?_, rfl, .conclude lifecycles prior _⟩, worlds⟩
      exact congrArg some lifecycles.executor.scheduler

end Lifecycles

/-- Tasks do the same. -/
theorem respects (swap : Substitution) : World.reactor.Respects swap.Worlds swap.Jobs where
  perform := by
    intro task other first second tasks runs
    obtain ⟨owner, delay, body⟩ := task
    obtain ⟨otherOwner, otherDelay, otherBody⟩ := other
    have jobs : swap.Jobs body otherBody := tasks.body
    cases jobs with
    | attempt lifecycles prior => exact lifecycles.attempt runs prior
    | conclude lifecycles prior outcome => exact lifecycles.conclude runs prior outcome
  elapse worlds before after := worlds.elapse before after

/-! ## Callers -/

/-- Submitting a unit is accepted or refused in the same way. -/
theorem Executors.submit {first second : Executor} (executors : swap.Executors first second)
    {run other : Universe} (runs : swap.Universes run other) (unit : WorkUnit) :
    (first.submit unit run).1 = (second.submit unit other).1 ∧
      swap.Universes (first.submit unit run).2 (second.submit unit other).2 := by
  have fresh := runs.state.coincide.freshHandle
  have scheduler : run.state.scheduler first.scheduler = other.state.scheduler second.scheduler := by
    rw [executors.scheduler, runs.state.coincide.scheduler]
  by_cases shut : (run.state.scheduler first.scheduler).isShutDown = true
  · rw [Executor.submit_of_shut shut, Executor.submit_of_shut (scheduler ▸ shut)]
    exact ⟨rfl, runs⟩
  · rw [Executor.submit_of_open (Bool.eq_false_iff.2 shut),
      Executor.submit_of_open (scheduler ▸ Bool.eq_false_iff.2 shut)]
    have lifecycles : swap.Lifecycles ⟨first, unit, run.state.freshHandle⟩
      ⟨second, unit, other.state.freshHandle⟩ := ⟨executors, rfl, fresh⟩
    refine ⟨congrArg Except.ok fresh, ⟨lifecycles.spawn runs 0 .zero, ?_⟩⟩
    exact (lifecycles.publish runs .pending).state

namespace Universes

variable {run other : Universe}

theorem isTracked_eq (runs : swap.Universes run other) (handle : Nat) :
    World.isTracked run handle = World.isTracked other handle := by
  have tasks := runs.loop.tasks
  rw [World.isTracked, World.isTracked]
  generalize run.loop.tasks = early, other.loop.tasks = late at tasks
  induction tasks with
  | nil => rfl
  | cons front rest ih => rw [List.any_cons, List.any_cons, front.body.lifecycle.handle, ih]

theorem isSettled_eq (runs : swap.Universes run other) (handle : Nat) :
    World.isSettled handle run = World.isSettled handle other := by
  rw [World.isSettled, World.isSettled, runs.state.coincide.statuses, runs.isTracked_eq]

theorem resultOf_eq (runs : swap.Universes run other) (handle : Nat) :
    World.resultOf run handle = World.resultOf other handle := by
  rw [World.resultOf, World.resultOf, runs.state.coincide.statuses]

/-- Whoever waits for a handle in the foreground gets the same. -/
theorem wait (runs : swap.Universes run other) (turns handle : Nat) :
    (World.wait turns handle run).1 = (World.wait turns handle other).1 ∧
      swap.Universes (World.wait turns handle run).2 (World.wait turns handle other).2 := by
  have waited := swap.respects.runUntil
    (fun runs => isSettled_eq runs handle) turns runs
  exact ⟨resultOf_eq waited handle, waited⟩

end Universes

namespace Executors

variable {first second : Executor} {run other : Universe}

/-- Whoever has a unit executed gets the same. -/
theorem execute (executors : swap.Executors first second) (runs : swap.Universes run other)
    (turns : Nat) (unit : WorkUnit) :
    (first.execute turns unit run).1 = (second.execute turns unit other).1 ∧
      swap.Universes (first.execute turns unit run).2 (second.execute turns unit other).2 := by
  obtain ⟨same, submitted⟩ := executors.submit runs unit
  rw [Executor.execute, Executor.execute]
  generalize first.submit unit run = here, second.submit unit other = there at same submitted
  obtain ⟨answer, run⟩ := here
  obtain ⟨_, other⟩ := there
  cases same
  cases answer with
  | ok handle => exact Universes.wait submitted turns handle
  | error failure => exact ⟨rfl, submitted⟩

theorem attemptHere (executors : swap.Executors first second) (runs : swap.Universes run other)
    (turns : Nat) (unit : WorkUnit) :
    (first.attemptHere turns unit run).1 = (second.attemptHere turns unit other).1 ∧
      swap.Universes (first.attemptHere turns unit run).2
        (second.attemptHere turns unit other).2 := by
  obtain ⟨same, worlds⟩ := executors.beginAttempt runs.state unit 0 run.loop.now
  rw [Executor.attemptHere, Executor.attemptHere, ← runs.loop.now]
  generalize first.beginAttempt unit 0 run.loop.now run.state = here,
    second.beginAttempt unit 0 run.loop.now other.state = there at same worlds
  obtain ⟨begun, world⟩ := here
  obtain ⟨_, after⟩ := there
  cases same
  have runs := runs.of_state worlds
  cases begun with
  | ended result => exact ⟨rfl, runs⟩
  | running response =>
    have paused : swap.Universes _ _ := swap.respects.pause response.latency turns runs
    dsimp only
    generalize World.reactor.pause response.latency turns { run with state := world } = here,
      World.reactor.pause response.latency turns { other with state := after } = there at paused
    have ended := executors.endAttempt paused.state unit 0 response.outcome here.loop.now
    rw [← paused.loop.now]
    exact ⟨ended.1, paused.of_state ended.2⟩

/-- Whoever processes a unit gets the same. -/
theorem process (executors : swap.Executors first second) (runs : swap.Universes run other)
    (turns : Nat) (unit : WorkUnit) :
    (first.process turns unit run).1 = (second.process turns unit other).1 ∧
      swap.Universes (first.process turns unit run).2 (second.process turns unit other).2 := by
  obtain ⟨same, later⟩ := executors.attemptHere runs turns unit
  rw [Executor.process, Executor.process]
  generalize first.attemptHere turns unit run = here, second.attemptHere turns unit other = there
    at same later
  obtain ⟨sequel, run⟩ := here
  obtain ⟨_, other⟩ := there
  cases same
  cases sequel with
  | done result => exact ⟨rfl, later⟩
  | retry attempt delay =>
    have fresh := later.state.coincide.freshHandle
    have lifecycles : swap.Lifecycles ⟨first, unit, run.state.freshHandle⟩
      ⟨second, unit, other.state.freshHandle⟩ := ⟨executors, rfl, fresh⟩
    exact ⟨congrArg (Executor.Processed.retryScheduled attempt delay) fresh,
      lifecycles.postpone (lifecycles.publish later .pending) attempt delay⟩

end Executors

/-! ## Scenes -/

variable (swap) in
/-- Calls by executors with stand-ins. -/
structure Visits (first second : Visit) : Prop where
  executor : swap.Executors first.executor second.executor
  unit : first.unit = second.unit
  outcome : first.outcome = second.outcome

variable (swap) in
/-- The same moves. Changes from outside are the same whatever the journal is. -/
inductive Moves : Move → Move → Prop
  | loop (move : LoopMove) : Moves (.loop move) (.loop move)
  | submit {first second : Executor} (executors : swap.Executors first second) (unit : WorkUnit) :
    Moves (.submit first unit) (.submit second unit)
  | enter {first second : Executor} (executors : swap.Executors first second) (unit : WorkUnit) :
    Moves (.enter first unit) (.enter second unit)
  | leave (index : Nat) : Moves (.leave index) (.leave index)
  | shutDown (scheduler : Nat) : Moves (.shutDown scheduler) (.shutDown scheduler)
  | intervene {change other : World → World}
      (same : ∀ {first second : World}, first.Coincide second →
        (change first).Coincide (other second)) :
    Moves (.intervene change) (.intervene other)

variable (swap) in
/-- Scenes in which the same goes on. -/
structure Scenes (first second : Scene) : Prop where
  run : swap.Universes first.run second.run
  visits : first.visits.Forall₂ swap.Visits second.visits
  handles : first.handles.Forall₂ swap.Lifecycles second.handles
  returned : first.returned = second.returned

theorem getElem?_of_forall₂ {α β : Type} {related : α → β → Prop} {items : List α} {others : List β}
    (all : items.Forall₂ related others) (index : Nat) :
    Option.Rel related items[index]? others[index]? := by
  induction all generalizing index with
  | nil => exact .none
  | cons front rest ih =>
    cases index with
    | zero => exact .some front
    | succ index =>
      rw [List.getElem?_cons_succ, List.getElem?_cons_succ]
      exact ih index

namespace Scenes

variable {first second : Scene}

theorem returning (scenes : swap.Scenes first second) (unit : WorkUnit)
    (result : Except Failure Completion) {run other : Universe}
    (runs : swap.Universes run other) :
    swap.Scenes (first.returning unit result run) (second.returning unit result other) :=
  ⟨runs, scenes.visits, scenes.handles, congrArg (· ++ [(unit, result)]) scenes.returned⟩

theorem handing (scenes : swap.Scenes first second) {lifecycle stand : Lifecycle}
    (lifecycles : swap.Lifecycles lifecycle stand) {run other : Universe}
    (runs : swap.Universes run other) :
    swap.Scenes (first.handing lifecycle run) (second.handing stand other) :=
  ⟨runs, scenes.visits, List.rel_append scenes.handles (.cons lifecycles .nil), scenes.returned⟩

/-- Calls end in the same way. -/
theorem concluding (scenes : swap.Scenes first second) {visit other : Visit}
    (visits : swap.Visits visit other) :
    swap.Scenes (first.concluding visit) (second.concluding other) := by
  obtain ⟨same, worlds⟩ :=
    visits.executor.endAttempt scenes.run.state visit.unit 0 visit.outcome first.run.loop.now
  have runs := scenes.run.of_state worlds
  rw [Scene.concluding, Scene.concluding, ← visits.unit, ← visits.outcome,
    ← scenes.run.loop.now]
  dsimp only
  rw [← same]
  cases (visit.executor.endAttempt visit.unit 0 visit.outcome first.run.loop.now
    first.run.state).1 with
  | done result => exact scenes.returning visit.unit result runs
  | retry attempt delay =>
    have lifecycles : swap.Lifecycles ⟨visit.executor, visit.unit, _⟩
      ⟨other.executor, visit.unit, _⟩ := ⟨visits.executor, rfl, worlds.coincide.freshHandle⟩
    exact scenes.handing lifecycles (lifecycles.postpone (lifecycles.publish runs _) attempt delay)

/-- The same move keeps scenes the same. -/
theorem after (scenes : swap.Scenes first second) {move other : Move}
    (moves : swap.Moves move other) : swap.Scenes (first.after move) (second.after other) := by
  cases moves with
  | loop move =>
    exact ⟨swap.respects.move scenes.run move, scenes.visits, scenes.handles, scenes.returned⟩
  | submit executors unit =>
    rename_i executor stand
    obtain ⟨same, runs⟩ := executors.submit scenes.run unit
    rw [Scene.after, Scene.after]
    generalize executor.submit unit first.run = here, stand.submit unit second.run = there
      at same runs
    obtain ⟨answer, run⟩ := here
    obtain ⟨_, other⟩ := there
    cases same
    cases answer with
    | ok handle =>
      have lifecycles : swap.Lifecycles ⟨executor, unit, handle⟩ ⟨stand, unit, handle⟩ :=
        ⟨executors, rfl, rfl⟩
      exact scenes.handing lifecycles runs
    | error failure => exact scenes.returning unit (.error failure) runs
  | enter executors unit =>
    rename_i executor stand
    obtain ⟨same, worlds⟩ := executors.beginAttempt scenes.run.state unit 0 first.run.loop.now
    rw [Scene.after, Scene.after, ← scenes.run.loop.now]
    generalize executor.beginAttempt unit 0 first.run.loop.now first.run.state = here,
      stand.beginAttempt unit 0 first.run.loop.now second.run.state = there at same worlds
    obtain ⟨begun, world⟩ := here
    obtain ⟨_, after⟩ := there
    cases same
    have runs := scenes.run.of_state worlds
    cases begun with
    | ended result => exact scenes.returning unit result runs
    | running response =>
      exact ⟨runs, List.rel_append scenes.visits (.cons ⟨executors, rfl, rfl⟩ .nil),
        scenes.handles, scenes.returned⟩
  | leave index =>
    have found := getElem?_of_forall₂ scenes.visits index
    rw [Scene.after, Scene.after]
    generalize first.visits[index]? = visit, second.visits[index]? = other at found
    cases found with
    | none => exact scenes
    | some visits =>
      have others : (first.visits.eraseIdx index).Forall₂ swap.Visits
          (second.visits.eraseIdx index) := by
        rw [List.eraseIdx_eq_take_drop_succ, List.eraseIdx_eq_take_drop_succ]
        exact List.rel_append (List.forall₂_take index scenes.visits)
          (List.forall₂_drop (index + 1) scenes.visits)
      have left : swap.Scenes { first with visits := first.visits.eraseIdx index }
        { second with visits := second.visits.eraseIdx index } :=
          ⟨scenes.run, others, scenes.handles, scenes.returned⟩
      exact left.concluding visits
  | shutDown id =>
    refine ⟨?_, scenes.visits, scenes.handles, scenes.returned⟩
    simp only [Scene.after, World.shutDown, Scheduler.shutDown]
    rw [scenes.run.state.coincide.scheduler id]
    split
    · exact ⟨scenes.run.loop, scenes.run.state.setScheduler id _⟩
    · exact ⟨scenes.run.loop.abort _, scenes.run.state.setScheduler id _⟩
  | intervene same =>
    exact ⟨⟨scenes.run.loop, scenes.run.state.alter (same scenes.run.state.coincide)⟩,
      scenes.visits, scenes.handles, scenes.returned⟩

/-- The same moves keep scenes the same. -/
theorem play (scenes : swap.Scenes first second) {moves others : List Move}
    (all : moves.Forall₂ swap.Moves others) :
    swap.Scenes (first.play moves) (second.play others) := by
  induction all generalizing first second with
  | nil => exact scenes
  | cons front rest ih => exact ih (scenes.after front)

/-- Whoever looks at a handle until it gives something gets the same. -/
theorem awaited_eq (scenes : swap.Scenes first second) (handle : Nat)
    {looks others : List (List Move)} (all : looks.Forall₂ (List.Forall₂ swap.Moves) others) :
    first.awaited handle looks = second.awaited handle others := by
  have poll {first second : Scene} (scenes : swap.Scenes first second) :
      first.poll handle = second.poll handle := by
    rw [Scene.poll, Scene.poll, scenes.run.isSettled_eq, scenes.run.resultOf_eq]
  induction all generalizing first second with
  | nil => exact poll scenes
  | cons front rest ih => rw [Scene.awaited, Scene.awaited, poll scenes, ih (scenes.play front)]

theorem opening (swap : Substitution) (world : World) (now : Nat) :
    swap.Scenes (Scene.opening world now) (Scene.opening world now) :=
  ⟨⟨⟨rfl, .nil, .nil⟩, .refl _⟩, .nil, .nil, rfl⟩

end Scenes

/-! ## What is noticed -/

variable {α : Type} {first second : Scene}

variable (swap) in
/-- What is seen of the worlds of two scenes is the same, and everybody gets the same in both. -/
structure LookTheSame (view : World → α) (first second : Scene) : Prop where
  state : view first.run.state = view second.run.state
  returned : first.returned = second.returned
  awaited : ∀ handle looks others, looks.Forall₂ (List.Forall₂ swap.Moves) others →
    first.awaited handle looks = second.awaited handle others
  /-- The last half of an attempt comes to the same, also if it gives the unit up. -/
  attempted : ∀ executor stand, swap.Executors executor stand → ∀ unit prior outcome now,
    (executor.endAttempt unit prior outcome now first.run.state).1 =
        (stand.endAttempt unit prior outcome now second.run.state).1 ∧
      view (executor.endAttempt unit prior outcome now first.run.state).2 =
        view (stand.endAttempt unit prior outcome now second.run.state).2
  executed : ∀ executor stand, swap.Executors executor stand → ∀ turns unit,
    (executor.execute turns unit first.run).1 = (stand.execute turns unit second.run).1 ∧
      view (executor.execute turns unit first.run).2.state =
        view (stand.execute turns unit second.run).2.state
  processed : ∀ executor stand, swap.Executors executor stand → ∀ turns unit,
    (executor.process turns unit first.run).1 = (stand.process turns unit second.run).1 ∧
      view (executor.process turns unit first.run).2.state =
        view (stand.process turns unit second.run).2.state

variable (swap) in
/-- Stand-ins are not noticed by anybody who sees only so much of a world. -/
def Unnoticed (view : World → α) : Prop :=
  ∀ world now moves others, moves.Forall₂ swap.Moves others →
    swap.LookTheSame view ((Scene.opening world now).play moves)
      ((Scene.opening world now).play others)

/-- Who sees no more of worlds than their journals tell does not notice a stand-in. -/
theorem unnoticed {view : World → α}
    (sees : ∀ {first second}, swap.Worlds first second → view first = view second) :
    swap.Unnoticed view := by
  intro world now moves others all
  have scenes := (Scenes.opening swap world now).play all
  exact
    { state := sees scenes.run.state
      returned := scenes.returned
      awaited := fun handle looks others all => scenes.awaited_eq handle all
      attempted := fun executor stand executors unit prior outcome now =>
        (executors.endAttempt scenes.run.state unit prior outcome now).imp id sees
      executed := fun executor stand executors turns unit =>
        (executors.execute scenes.run turns unit).imp id fun runs => sees runs.state
      processed := fun executor stand executors turns unit =>
        (executors.process scenes.run turns unit).imp id fun runs => sees runs.state }

end Substitution

end Resilience
