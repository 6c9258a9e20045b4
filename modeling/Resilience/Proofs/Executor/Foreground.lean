import Resilience.Proofs.Executor.Executing
import Resilience.Proofs.Executor.Solo

/-!
# The first attempt in the foreground

A unit can be executed in the background from the start, or its first attempt is made in the
foreground and its handle is waited for if there are further ones. On a loop without other tasks
this makes no difference, whatever the executor works with and however the work goes: the
invocations are the same ones and made at the same times, everything else that is recorded happens
at the same times, and if the work comes to an end, it ends at the same time with the same result
and leaves the same counts, breakers and sources. Only the handle tells less of the first attempt.

## Main definitions

* `Executor.processAndWait` — the first attempt in the foreground, and then the wait
* `Executor.SameEnd` — ends that cannot be told apart
* `Solo.Told` — what can be seen of a unit alone on its loop
* `Executor.Reaches` — the work has come a number of halves far, or to its end

## Main statements

* `Executor.reaches_execute`, `Executor.reaches_processAndWait` — both ways make one half of an
  attempt after the other
* `Executor.processAndWait_eq_execute` — both ways come to the same
-/

namespace Resilience

namespace Executor

/-- Makes the first attempt on a unit in the foreground, and waits for the result if there are
further ones. -/
def processAndWait (executor : Executor) (turns : Nat) (unit : WorkUnit) (run : Universe) :
    Except Failure Completion × Universe :=
  match executor.process turns unit run with
  | (.finished result, run) => (result, run)
  | (.retryScheduled _ _ handle, run) => World.wait turns handle run

/-- Ends with the same result, at the same time and in the same world, apart from what handles
show. -/
structure SameEnd (first second : Except Failure Completion × Universe) : Prop where
  result : first.1 = second.1
  loop : first.2.loop = second.2.loop
  state : first.2.state.unpublished = second.2.state.unpublished

/-- What has been recorded so far, apart from what handles show. -/
def recorded (run : Universe) : List JournalEntry := run.state.unpublished.journal.toList

variable {executor : Executor} {unit : WorkUnit}

/-! ## Halves of attempts in a row -/

theorem iterate_goOn_of_isOver {solo : Solo} (finished : solo.isOver = true) (count : Nat) :
    (executor.goOn unit)^[count] solo = solo := by
  cases solo with
  | awaits => cases finished
  | finished => exact Function.iterate_fixed rfl count

/-- When the work is over, nothing more happens. -/
theorem iterate_goOn_of_le {solo : Solo} {made count : Nat}
    (finished : ((executor.goOn unit)^[made] solo).isOver = true) (more : made ≤ count) :
    (executor.goOn unit)^[count] solo = (executor.goOn unit)^[made] solo := by
  obtain ⟨rest, rfl⟩ := Nat.exists_eq_add_of_le' more
  rw [Function.iterate_add_apply, iterate_goOn_of_isOver finished]

/-- Two ways that do not stop before the end have the same end. -/
theorem iterate_goOn_eq {solo : Solo} {made count : Nat}
    (finished : ((executor.goOn unit)^[made] solo).isOver = true)
    (further : made ≤ count ∨ ((executor.goOn unit)^[count] solo).isOver = true) :
    (executor.goOn unit)^[count] solo = (executor.goOn unit)^[made] solo := by
  rcases Nat.le_total made count with more | less
  · exact iterate_goOn_of_le finished more
  · rcases further with more | finished'
    · exact iterate_goOn_of_le finished more
    · exact (iterate_goOn_of_le finished' less).symm

theorem journal_ofBegun (prior now : Nat) (half : Begun × World) :
    (Solo.ofBegun prior now half).world.unpublished.journal = half.2.unpublished.journal := by
  obtain ⟨result | response, world⟩ := half <;> rfl

theorem journal_ofSequel (now : Nat) (half : Sequel × World) :
    (Solo.ofSequel now half).world.unpublished.journal = half.2.unpublished.journal := by
  obtain ⟨result | ⟨attempt, delay⟩, world⟩ := half <;> rfl

theorem recorded_goOn (solo : Solo) :
    solo.world.unpublished.journal.toList <+:
      (executor.goOn unit solo).world.unpublished.journal.toList := by
  cases solo with
  | finished => exact List.prefix_rfl
  | awaits half now world =>
    cases half with
    | first prior =>
      rw [goOn, journal_ofBegun]
      exact (executor.heedless_beginAttempt unit now prior).journal_grows world
    | second prior outcome =>
      rw [goOn, journal_ofSequel]
      exact (executor.heedless_endAttempt unit now prior outcome).journal_grows world

/-- What has been recorded stays recorded. -/
theorem recorded_iterate_goOn {solo : Solo} {made count : Nat} (more : made ≤ count) :
    ((executor.goOn unit)^[made] solo).world.unpublished.journal.toList <+:
      ((executor.goOn unit)^[count] solo).world.unpublished.journal.toList := by
  induction count, more using Nat.le_induction with
  | base => exact List.prefix_rfl
  | succ count more grown =>
    rw [Function.iterate_succ_apply']
    exact grown.trans (recorded_goOn _)

end Executor

/-! ## What can be seen -/

/-- What can be seen of a unit alone on its loop, by the result and the world that it is told
with. -/
structure Solo.Told (handle : Nat) (solo : Solo) (told : Except Failure Completion × Universe) :
    Prop where
  isSettled : World.isSettled handle told.2 = solo.isOver
  recorded : Executor.recorded told.2 = solo.world.unpublished.journal.toList
  ended {now : Nat} {result : Except Failure Completion} {world : World}
    (finished : solo = .finished now result world) :
    told.1 = result ∧ told.2.loop = { now } ∧ told.2.state.Alike world

theorem Lifecycle.Shows.told {lifecycle : Lifecycle} {naps : Nat} {solo : Solo} {run : Universe}
    (shows : lifecycle.Shows naps solo run) :
    solo.Told lifecycle.handle (World.resultOf run lifecycle.handle, run) := by
  refine ⟨shows.isSettled_eq, ?_, ?_⟩
  · cases shows with
    | due owner alike | asleep owner alike | finished alike =>
      exact congrArg (fun world => world.journal.toList) alike
    | waiting owner delay positive alike =>
      exact congrArg (fun world => world.journal.toList) alike
  · rintro now result world rfl
    cases shows with
    | finished alike shown =>
      refine ⟨?_, rfl, alike⟩
      rw [World.resultOf, shown, Option.bind_some, Status.result?_ofResult]
      rfl

namespace Executor

variable {executor : Executor} {unit : WorkUnit} {run : Universe}

theorem eq_of_tasks_eq_nil (idle : run.loop.tasks = []) :
    run = ⟨{ now := run.loop.now }, run.state⟩ := by
  obtain ⟨⟨now, ready, timers⟩, state⟩ := run
  obtain ⟨ready_nil, timers_nil⟩ := List.append_eq_nil_iff.1 idle
  obtain rfl := List.map_eq_nil_iff.1 ready_nil
  obtain rfl := List.map_eq_nil_iff.1 timers_nil
  rfl

/-- The work on a unit has come a number of halves far, or to its end, and is told so. -/
def Reaches (executor : Executor) (unit : WorkUnit) (run : Universe) (made : Nat)
    (told : Except Failure Completion × Universe) : Prop :=
  ∃ count, ((executor.goOn unit)^[count] (.awaits (.first 0) run.loop.now run.state)).Told
      run.state.freshHandle told ∧
    (made ≤ count ∨
      ((executor.goOn unit)^[count] (.awaits (.first 0) run.loop.now run.state)).isOver = true)

/-- Executing a unit makes one half of an attempt after the other. -/
theorem reaches_execute (executor : Executor) (unit : WorkUnit) (idle : run.loop.tasks = [])
    (isOpen : (run.state.scheduler executor.scheduler).isShutDown = false) {made turns : Nat}
    (enough : 3 * made ≤ turns + 1) :
    executor.Reaches unit run made (executor.execute turns unit run) := by
  rw [eq_of_tasks_eq_nil idle]
  generalize run.loop.now = now
  generalize run.state = state at isOpen ⊢
  let lifecycle : Lifecycle := ⟨executor, unit, state.freshHandle⟩
  have shows : lifecycle.Shows 0 (.awaits (.first 0) now state)
      ⟨{ now, ready := [.run ⟨some (state.scheduler executor.scheduler).id, .zero,
          .attempt lifecycle 0⟩] }, state.publish now lifecycle.handle .pending⟩ :=
    .due _ (.publish (.refl state) now _ _) (Table.find?_insert_self ..) rfl isOpen
  obtain ⟨count, naps, shows, taken⟩ := shows.runUntil turns
  refine ⟨count, ?_, taken.imp_left fun _ => by omega⟩
  have submitted : executor.submit unit ⟨{ now }, state⟩ = (.ok state.freshHandle,
      ⟨{ now, ready := [.run ⟨some (state.scheduler executor.scheduler).id, .zero,
          .attempt lifecycle 0⟩] }, state.publish now lifecycle.handle .pending⟩) := by
    simp only [submit, Scheduler.schedule, isOpen]
    rfl
  rw [execute, submitted]
  exact shows.told

/-- A pause on a loop without tasks. -/
theorem pause_of_idle (latency : Duration) (turns now : Nat) (state : World) :
    World.reactor.pause latency (turns + 1) ⟨{ now }, state⟩ =
      ⟨{ now := now + latency.waitMillis }, state.elapse now (now + latency.waitMillis)⟩ := by
  rw [Reactor.pause]
  split
  · rename_i atOnce
    rw [atOnce, Duration.waitMillis_zero, Nat.add_zero, World.elapse_self]
  · rfl

/-- The first attempt in the foreground consists of the first halves that are due. -/
theorem attemptHere_of_idle (executor : Executor) (unit : WorkUnit) (turns now : Nat)
    (state : World) :
    ∃ made now' sequel state', 1 ≤ made ∧ state'.statuses = state.statuses ∧
      state'.schedulers = state.schedulers ∧
      executor.attemptHere (turns + 1) unit ⟨{ now }, state⟩ = (sequel, ⟨{ now := now' }, state'⟩) ∧
      (executor.goOn unit)^[made] (.awaits (.first 0) now state) =
        .ofSequel now' (sequel, state') := by
  have statuses := (executor.heedless_beginAttempt unit now 0).statuses state
  have schedulers := executor.schedulers_beginAttempt unit 0 now state
  have next : executor.goOn unit (.awaits (.first 0) now state) =
    .ofBegun 0 now (executor.beginAttempt unit 0 now state) := rfl
  rw [attemptHere]
  dsimp only
  generalize executor.beginAttempt unit 0 now state = half at statuses schedulers next ⊢
  obtain ⟨result | response, world⟩ := half
  · exact ⟨1, now, .done result, world, Nat.le_refl 1, statuses, schedulers, rfl, next⟩
  · dsimp only at statuses schedulers ⊢
    rw [pause_of_idle]
    generalize ended : now + response.latency.waitMillis = due
    have statuses' := (executor.heedless_endAttempt unit due 0 response.outcome).statuses
      (world.elapse now due)
    have schedulers' := executor.schedulers_endAttempt unit 0 response.outcome due
      (world.elapse now due)
    refine ⟨2, due, _, _, by omega, statuses'.trans statuses, schedulers'.trans schedulers, rfl, ?_⟩
    rw [Function.iterate_succ_apply, Function.iterate_one, next, Solo.ofBegun, ended]
    rfl

/-- So does making the first attempt in the foreground and waiting for the others. -/
theorem reaches_processAndWait (executor : Executor) (unit : WorkUnit)
    (idle : run.loop.tasks = [])
    (isOpen : (run.state.scheduler executor.scheduler).isShutDown = false) {made turns : Nat}
    (enough : 3 * made ≤ turns + 1) :
    executor.Reaches unit run made (executor.processAndWait (turns + 1) unit run) := by
  rw [eq_of_tasks_eq_nil idle]
  generalize run.loop.now = now
  generalize run.state = state at isOpen ⊢
  obtain ⟨here, now', sequel, state', some, statuses, schedulers, attempted, next⟩ :=
    attemptHere_of_idle executor unit turns now state
  rw [processAndWait, process, attempted]
  cases sequel with
  | done result =>
    -- nothing is left on the loop, so that nobody waits
    refine ⟨here, ?_, .inr (by rw [next]; rfl)⟩
    rw [next]
    refine ⟨World.isSettled_of_tasks_eq_nil rfl _, rfl, ?_⟩
    rintro _ _ _ ⟨⟩
    exact ⟨rfl, rfl, .refl state'⟩
  | retry attempt delay =>
    -- the handle is made after the first attempt, which has shown nothing on any handle
    let lifecycle : Lifecycle := ⟨executor, unit, state'.freshHandle⟩
    have sameHandle : state'.freshHandle = state.freshHandle := congrArg Table.size statuses
    have still : (state'.scheduler executor.scheduler).isShutDown = false := by
      rw [World.scheduler_congr schedulers]
      exact isOpen
    obtain ⟨naps, few, shows⟩ := lifecycle.follow_shows now' (.retry attempt delay)
      (.publish (.refl state') now' lifecycle.handle .pending) still
    obtain ⟨count, naps', shows', taken⟩ := shows.runUntil (turns + 1)
    refine ⟨count + here, ?_, ?_⟩
    · rw [Function.iterate_add_apply, next, ← sameHandle]
      exact shows'.told
    · rw [Function.iterate_add_apply, next]
      exact taken.imp_left fun _ => by omega

/-! ## Both ways come to the same -/

section

variable {made : Nat} {first second : Except Failure Completion × Universe}

/-- A way that has come to an end, and another one that is not behind. -/
theorem Reaches.sameEnd
    (told : ((executor.goOn unit)^[made] (.awaits (.first 0) run.loop.now run.state)).Told
      run.state.freshHandle first)
    (settled : World.isSettled run.state.freshHandle first.2 = true)
    (reaches : executor.Reaches unit run made second) : SameEnd second first := by
  obtain ⟨count, told', further⟩ := reaches
  generalize Solo.awaits (.first 0) run.loop.now run.state = solo at told told' further
  have finished : ((executor.goOn unit)^[made] solo).isOver = true :=
    told.isSettled.symm.trans settled
  rw [iterate_goOn_eq finished further] at told'
  cases ended : (executor.goOn unit)^[made] solo with
  | awaits half due world =>
    rw [ended] at finished
    cases finished
  | finished now result world =>
    obtain ⟨result, loop, alike⟩ := told.ended ended
    obtain ⟨result', loop', alike'⟩ := told'.ended ended
    exact ⟨result'.trans result.symm, loop'.trans loop.symm, alike'.trans alike.symm⟩

/-- A way that has come some way, and another one that is not behind. -/
theorem Reaches.recorded
    (told : ((executor.goOn unit)^[made] (.awaits (.first 0) run.loop.now run.state)).Told
      run.state.freshHandle first)
    (reaches : executor.Reaches unit run made second) :
    recorded first.2 <+: recorded second.2 := by
  obtain ⟨count, told', further⟩ := reaches
  rw [told.recorded, told'.recorded]
  rcases Nat.le_total made count with more | less
  · exact recorded_iterate_goOn more
  · rcases further with more | finished
    · exact recorded_iterate_goOn more
    · exact iterate_goOn_of_le finished less ▸ List.prefix_rfl

end

/-- On a loop without other tasks it makes no difference whether the first attempt on a unit is made
in the foreground. As soon as one way has come to an end, so does the other one when its turns
suffice: with the same result, at the same time, after the same invocations at the same times and
the same reports, and with the same counts, breakers and sources. Until then either way records
what the other one records, in the same order and at the same times. -/
theorem processAndWait_eq_execute (executor : Executor) (unit : WorkUnit) (run : Universe)
    (idle : run.loop.tasks = [])
    (isOpen : (run.state.scheduler executor.scheduler).isShutDown = false) (turns : Nat) :
    (World.isSettled run.state.freshHandle (executor.execute turns unit run).2 = true →
      ∃ enough, ∀ more, enough ≤ more →
        SameEnd (executor.processAndWait more unit run) (executor.execute turns unit run)) ∧
    (World.isSettled run.state.freshHandle (executor.processAndWait (turns + 1) unit run).2 = true →
      ∃ enough, ∀ more, enough ≤ more →
        SameEnd (executor.execute more unit run) (executor.processAndWait (turns + 1) unit run)) ∧
    (∃ enough, ∀ more, enough ≤ more →
      recorded (executor.execute turns unit run).2 <+:
        recorded (executor.processAndWait more unit run).2) ∧
    ∃ enough, ∀ more, enough ≤ more →
      recorded (executor.processAndWait (turns + 1) unit run).2 <+:
        recorded (executor.execute more unit run).2 := by
  have background {made more : Nat} (enough : 3 * made + 1 ≤ more) :
      executor.Reaches unit run made (executor.execute more unit run) :=
    reaches_execute executor unit idle isOpen (by omega)
  have foreground {made : Nat} : ∀ {more : Nat}, 3 * made + 1 ≤ more →
      executor.Reaches unit run made (executor.processAndWait more unit run)
    | more + 1, enough => reaches_processAndWait executor unit idle isOpen (by omega)
  -- either way has made some halves of attempts, and the other one gets as far with enough turns
  obtain ⟨made, told, -⟩ : executor.Reaches unit run 0 (executor.execute turns unit run) :=
    reaches_execute executor unit idle isOpen (Nat.zero_le _)
  obtain ⟨made', told', -⟩ :
      executor.Reaches unit run 0 (executor.processAndWait (turns + 1) unit run) :=
    reaches_processAndWait executor unit idle isOpen (Nat.zero_le _)
  exact ⟨fun settled => ⟨3 * made + 1, fun more enough => (foreground enough).sameEnd told settled⟩,
    fun settled => ⟨3 * made' + 1, fun more enough => (background enough).sameEnd told' settled⟩,
    ⟨3 * made + 1, fun more enough => (foreground enough).recorded told⟩,
    ⟨3 * made' + 1, fun more enough => (background enough).recorded told'⟩⟩

/-- A first attempt in the foreground that fails, and a second one that is waited for. -/
theorem processAndWait_eq_execute_second :
    let executor : Executor :=
      { counter := .inProcess "counts" { defaultTtl := none }
        handler :=
          ⟨{ maxAttempts := 3, strategy := .fixed, baseDelay := .ofMillis 20 }, none⟩ }
    let unit : WorkUnit := ⟨"a", "deliver", none, .empty⟩
    let flaky : Operation :=
      { name := "flaky"
        respond := fun calls _ =>
          if calls.isEmpty then ⟨.ofMillis 5, .error (.of .timeout "late")⟩ else {} }
    let run : Universe := ⟨{}, { operations := Table.insert {} 0 flaky }⟩
    let executed := executor.execute 11 unit run
    (run.loop.tasks = [] ∧ (run.state.scheduler executor.scheduler).isShutDown = false ∧
      World.isSettled run.state.freshHandle executed.2 = true) ∧
      ∃ enough, ∀ more, enough ≤ more →
        SameEnd (executor.processAndWait more unit run) executed := by
  intro executor unit flaky run executed
  have settled : World.isSettled run.state.freshHandle executed.2 = true := by decide +kernel
  obtain ⟨ends, -⟩ := processAndWait_eq_execute executor unit run rfl rfl 11
  exact ⟨⟨rfl, rfl, settled⟩, ends settled⟩

end Executor

end Resilience
