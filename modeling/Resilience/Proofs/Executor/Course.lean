import Resilience.Proofs.Executor.Sight

/-!
# The course of a lifecycle

Turn by turn, a lifecycle goes from one phase to the next, at the times that its phases tell. As
every turn depends on what the lifecycle can see, and no turn of another lifecycle changes that, the
course that a lifecycle would take by itself is the one it takes among others.

## Main definitions

* `Lifecycle.advance` — what a turn of a lifecycle comes to, while its scheduler accepts tasks
* `Executor.course` — the turns of a lifecycle that nobody else comes in between
* `Chronicle` — what is told about a unit and what its handle has shown

## Main statements

* `World.perform_arrives` — the turn of a job is a turn of its lifecycle
* `Lifecycle.advance_of_sight`, `sight_advance_of_other` — turns and what can be seen
* `Executor.before_course` — later turns tell nothing of earlier times
-/

namespace Resilience

namespace Executor

variable {executor : Executor} {unit : WorkUnit} {handle now time : Nat} {world : World}

/-! ## What attempts leave alone -/

theorem Opening.isSound {begun : Begun} {occurrences : List Occurrence} {after : World.Holdings}
    {prior : Nat} (opening : executor.Opening unit prior now world begun occurrences after)
    (sound : world.ledger.IsSound) : after.ledger.IsSound := by
  cases opening with
  | denied | invoked => exact sound
  | gone => exact sound.reset _ _ _

theorem Closing.isSound {concluded : Except Fault Unit} {before after : World.Holdings}
    {sequel : Sequel} {occurrences : List Occurrence} {prior : Nat}
    (closing : executor.Closing unit prior now concluded before sequel occurrences after)
    (sound : before.ledger.IsSound) : after.ledger.IsSound := by
  cases closing with
  | completed | vanished => exact sound.reset _ _ _
  | retried => exact sound.increment _ _ _
  | gaveUp => exact (sound.increment _ _ _).reset _ _ _

/-- Invocations do not change how an operation responds. -/
theorem respond_beginAttempt (prior : Nat) :
    ((executor.beginAttempt unit prior now world).2.operation executor.operation).respond =
      (world.operation executor.operation).respond := by
  obtain ⟨_, opening, -⟩ := executor.opening_beginAttempt unit prior now world
  have operations := opening.operations
  simp only [World.holdings] at operations
  rcases operations with same | invoked
  · rw [World.operation, same, World.operation]
  · rw [World.operation, invoked, Table.find?_insert_self]
    rfl

/-- There are units apart from any given one. -/
theorem exists_isApart (unit : WorkUnit) : ∃ other : WorkUnit, other.IsApart unit := by
  refine ⟨{ unit with id := unit.id ++ "'" }, WorkUnit.isApart_of_length ?_⟩
  rw [String.length_append]
  exact Nat.ne_of_gt (Nat.lt_succ_self _)

/-- Attempts show nothing on a handle: seen from another unit, nothing happens. -/
theorem shown_beginAttempt (plain : executor.IsPlain) (prior : Nat) :
    (executor.beginAttempt unit prior time world).2.shown handle = world.shown handle := by
  -- what a handle shows is in the sight of every unit
  obtain ⟨other, apart⟩ := exists_isApart unit
  exact congrArg Sight.shown
    (@sight_beginAttempt_of_other executor other unit handle time time world plain apart prior)

theorem shown_endAttempt (plain : executor.IsPlain) (prior : Nat) (outcome : Except Fault Unit) :
    (executor.endAttempt unit prior outcome time world).2.shown handle = world.shown handle := by
  obtain ⟨other, apart⟩ := exists_isApart unit
  exact congrArg Sight.shown
    (@sight_endAttempt_of_other executor other unit handle time time world plain apart prior
      outcome)

end Executor

/-! ## Chronicles -/

/-- What is told about a unit, with the times of its invocations, events and acknowledgements, and
the statuses that its handle has shown. -/
structure Chronicle where
  entries : List JournalEntry
  statuses : List (Nat × Status)

namespace Chronicle

/-- The part of a chronicle that is about earlier times. -/
def before (time : Nat) (chronicle : Chronicle) : Chronicle where
  entries := chronicle.entries.filter (·.time < time)
  statuses := chronicle.statuses.filter (·.1 < time)

/-- A chronicle goes on with what happens at one time. -/
def Grows (now : Nat) (early late : Chronicle) : Prop :=
  ∃ entries statuses, late = ⟨early.entries ++ entries, early.statuses ++ statuses⟩ ∧
    (∀ entry ∈ entries, entry.time = now) ∧ ∀ status ∈ statuses, status.1 = now

variable {now time : Nat} {early middle late : Chronicle}

theorem Grows.refl (now : Nat) (chronicle : Chronicle) : Grows now chronicle chronicle :=
  ⟨[], [], by simp, List.forall_mem_nil _, List.forall_mem_nil _⟩

theorem Grows.trans (first : Grows now early middle) (second : Grows now middle late) :
    Grows now early late := by
  obtain ⟨entries, statuses, rfl, entriesNow, statusesNow⟩ := first
  obtain ⟨others, more, rfl, othersNow, moreNow⟩ := second
  refine ⟨entries ++ others, statuses ++ more, by simp only [List.append_assoc], ?_, ?_⟩
  · exact List.forall_mem_append.2 ⟨entriesNow, othersNow⟩
  · exact List.forall_mem_append.2 ⟨statusesNow, moreNow⟩

/-- What happens now is not about earlier times. -/
theorem Grows.before (grows : Grows now early late) (upTo : time ≤ now) :
    late.before time = early.before time := by
  obtain ⟨entries, statuses, rfl, entriesNow, statusesNow⟩ := grows
  have noEntry : entries.filter (·.time < time) = [] :=
    List.filter_eq_nil_iff.2 fun entry member => by simp [entriesNow entry member, upTo]
  have noStatus : statuses.filter (·.1 < time) = [] :=
    List.filter_eq_nil_iff.2 fun status member => by simp [statusesNow status member, upTo]
  simp only [Chronicle.before, List.filter_append, noEntry, noStatus, List.append_nil]

end Chronicle

namespace World

/-- What is told about a unit, and what a handle has shown. -/
def chronicle (world : World) (unit : WorkUnit) (handle : Nat) : Chronicle where
  entries := world.tale (· = unit)
  statuses := world.shown handle

variable {executor : Executor} {unit : WorkUnit} {handle now : Nat} {world : World}

theorem grows_publish (world : World) (unit : WorkUnit) (handle now : Nat) (status : Status) :
    Chronicle.Grows now (world.chronicle unit handle)
      ((world.publish now handle status).chronicle unit handle) := by
  refine ⟨[], [(now, status)], ?_, List.forall_mem_nil _, List.forall_mem_singleton.2 rfl⟩
  rw [chronicle, tale_publish, publish, shown_record, Occurrence.status?, if_pos rfl,
    List.append_nil]
  rfl

/-- Some more is told, all of it at one time. -/
theorem grows_of_tale {after : World} {occurrences : List Occurrence}
    (tale : after.tale (· = unit) = world.tale (· = unit) ++ tellings (· = unit) now occurrences)
    (shown : after.shown handle = world.shown handle) :
    Chronicle.Grows now (world.chronicle unit handle) (after.chronicle unit handle) := by
  refine ⟨tellings (· = unit) now occurrences, [], ?_, ?_, List.forall_mem_nil _⟩
  · rw [chronicle, tale, shown, List.append_nil]
    rfl
  · intro entry member
    obtain ⟨occurrence, -, rfl⟩ := List.mem_map.1 member
    rfl

theorem grows_beginAttempt (plain : executor.IsPlain) (prior : Nat) :
    Chronicle.Grows now (world.chronicle unit handle)
      ((executor.beginAttempt unit prior now world).2.chronicle unit handle) := by
  obtain ⟨occurrences, -, tale⟩ := executor.opening_beginAttempt unit prior now world
  exact grows_of_tale (tale _) (Executor.shown_beginAttempt plain prior)

theorem grows_endAttempt (plain : executor.IsPlain) (prior : Nat) (outcome : Except Fault Unit) :
    Chronicle.Grows now (world.chronicle unit handle)
      ((executor.endAttempt unit prior outcome now world).2.chronicle unit handle) := by
  obtain ⟨occurrences, -, tale⟩ := executor.closing_endAttempt unit prior now world outcome
  exact grows_of_tale (tale _) (Executor.shown_endAttempt plain prior outcome)

/-- Schedulers that are left alone go on accepting tasks, or not. -/
theorem isShutDown_congr {first second : World} (same : first.schedulers = second.schedulers)
    (id : Nat) : (first.scheduler id).isShutDown = (second.scheduler id).isShutDown :=
  congrArg Scheduler.isShutDown (scheduler_congr same id)

end World

/-! ## Turns -/

namespace Lifecycle

/-- What the second half of an attempt comes to, with the status it shows. -/
def close (lifecycle : Lifecycle) (prior : Nat) (outcome : Except Fault Unit) (now : Nat)
    (world : World) : Phase × World :=
  let (sequel, world) := lifecycle.executor.endAttempt lifecycle.unit prior outcome now world
  match sequel with
  | .done result => (.ended result, world.publish now lifecycle.handle (.ofResult result))
  | .retry attempt delay =>
    (.waiting attempt (now + delay.waitMillis),
      world.publish now lifecycle.handle (.retryScheduled attempt delay))

/-- What a turn of a lifecycle comes to, with the statuses it shows. A lifecycle that has ended
takes no turns. -/
def advance (lifecycle : Lifecycle) : Phase × World → Phase × World
  | (.waiting prior now, world) =>
    let world := world.publish now lifecycle.handle (.inProgress (Executor.nextAttempt prior))
    let (begun, world) := lifecycle.executor.beginAttempt lifecycle.unit prior now world
    match begun with
    | .ended result => (.ended result, world.publish now lifecycle.handle (.ofResult result))
    | .running response =>
      if response.latency = .zero then lifecycle.close prior response.outcome now world
      else (.running prior response.outcome (now + response.latency.waitMillis), world)
  | (.running prior outcome now, world) => lifecycle.close prior outcome now world
  | (phase, world) => (phase, world)

/-- A run comes from another one by the turn of a lifecycle that goes to a phase and a world. -/
def Arrives (lifecycle : Lifecycle) (there : Phase × World) (run next : Universe) : Prop :=
  next.state = there.2 ∧ ∃ items status, there.1.Stands lifecycle items status ∧
    next.loop.agenda = items + run.loop.agenda ∧
    there.2.statuses.find? lifecycle.handle = some status

variable {lifecycle : Lifecycle} {run : Universe}

/-- The status that is published last is the one that a handle shows. -/
theorem find?_publish (world : World) (now handle : Nat) (status : Status) :
    (world.publish now handle status).statuses.find? handle = some status :=
  Table.find?_insert_self _ _ _

theorem conclude_arrives (prior : Nat) (outcome : Except Fault Unit)
    (accepts : (run.state.scheduler lifecycle.executor.scheduler).isShutDown = false) :
    lifecycle.Arrives (lifecycle.close prior outcome run.loop.now run.state) run
      (lifecycle.conclude prior outcome run) := by
  have schedulers := lifecycle.executor.schedulers_endAttempt lifecycle.unit prior outcome
    run.loop.now run.state
  simp only [conclude, close]
  generalize lifecycle.executor.endAttempt lifecycle.unit prior outcome run.loop.now run.state =
    half at schedulers ⊢
  obtain ⟨sequel, world⟩ := half
  cases sequel with
  | done result =>
    exact ⟨rfl, 0, .ofResult result, ⟨rfl, rfl⟩, (Multiset.zero_add _).symm, find?_publish ..⟩
  | retry attempt delay =>
    have still : (world.scheduler lifecycle.executor.scheduler).isShutDown = false :=
      (World.isShutDown_congr schedulers _).trans accepts
    dsimp only [follow]
    rw [@postpone_of_open lifecycle { run with state := world } still]
    refine ⟨rfl, _, _, ⟨⟨some (world.scheduler lifecycle.executor.scheduler).id, rfl⟩, rfl, rfl⟩,
      ?_, find?_publish ..⟩
    rw [Multiset.singleton_add]
    exact EventLoop.agenda_spawn _ _

theorem attempt_arrives (prior : Nat)
    (accepts : (run.state.scheduler lifecycle.executor.scheduler).isShutDown = false) :
    lifecycle.Arrives (lifecycle.advance (.waiting prior run.loop.now, run.state)) run
      (lifecycle.attempt prior run) := by
  have statuses := lifecycle.executor.statuses_beginAttempt lifecycle.unit prior run.loop.now
    (run.state.publish run.loop.now lifecycle.handle (.inProgress (Executor.nextAttempt prior)))
  have schedulers := lifecycle.executor.schedulers_beginAttempt lifecycle.unit prior run.loop.now
    (run.state.publish run.loop.now lifecycle.handle (.inProgress (Executor.nextAttempt prior)))
  simp only [attempt, advance, publish, Run.mapState]
  generalize lifecycle.executor.beginAttempt lifecycle.unit prior run.loop.now _ = half
    at statuses schedulers ⊢
  obtain ⟨begun, world⟩ := half
  cases begun with
  | ended result =>
    exact ⟨rfl, 0, .ofResult result, ⟨rfl, rfl⟩, (Multiset.zero_add _).symm, find?_publish ..⟩
  | running response =>
    dsimp only
    -- without latency the attempt ends in the turn in which it begins
    split
    · have still : (world.scheduler lifecycle.executor.scheduler).isShutDown = false :=
        (World.isShutDown_congr schedulers _).trans accepts
      exact @conclude_arrives lifecycle { run with state := world } prior response.outcome still
    · refine ⟨rfl, _, .inProgress (Executor.nextAttempt prior),
        ⟨⟨some lifecycle.executor.scheduler, rfl⟩, rfl⟩, ?_, ?_⟩
      · rw [Multiset.singleton_add, Run.mapLoop, EventLoop.agenda_sleep, Task.appointment,
          Duration.waitMillis_zero, Nat.add_zero]
      · exact (congrArg (·.find? lifecycle.handle) statuses).trans (find?_publish ..)

end Lifecycle

/-- The turn of a job is a turn of its lifecycle. -/
theorem World.perform_arrives (owner : Option Nat) (delay : Duration) (body : Job) (run : Universe)
    (accepts :
      (run.state.scheduler body.lifecycle.executor.scheduler).isShutDown = false) :
    body.lifecycle.Arrives (body.lifecycle.advance (body.phase run.loop.now, run.state)) run
      (reactor.perform ⟨owner, delay, body⟩ run) := by
  cases body with
  | attempt lifecycle prior => exact Lifecycle.attempt_arrives prior accepts
  | conclude lifecycle prior outcome => exact Lifecycle.conclude_arrives prior outcome accepts

namespace Lifecycle

/-- A turn consists of halves of attempts and of statuses, all at its time. -/
theorem advance_preserves {lifecycle : Lifecycle} {phase : Phase} (holds : World → Prop)
    (published : ∀ now ∈ phase.due?, ∀ world status, holds world →
      holds (world.publish now lifecycle.handle status))
    (begun : ∀ now ∈ phase.due?, ∀ world prior, holds world →
      holds (lifecycle.executor.beginAttempt lifecycle.unit prior now world).2)
    (concluded : ∀ now ∈ phase.due?, ∀ world prior outcome, holds world →
      holds (lifecycle.executor.endAttempt lifecycle.unit prior outcome now world).2)
    {world : World} (before : holds world) : holds (lifecycle.advance (phase, world)).2 := by
  -- the second half of an attempt, whether it follows the first one at once or later
  have closed (now : Nat) (here : now ∈ phase.due?) (prior : Nat) (outcome : Except Fault Unit)
      (world : World) (before : holds world) :
      holds (lifecycle.close prior outcome now world).2 := by
    have ended := concluded now here world prior outcome before
    simp only [close]
    generalize lifecycle.executor.endAttempt lifecycle.unit prior outcome now world = half
      at ended ⊢
    obtain ⟨result | ⟨attempt, delay⟩, world⟩ := half <;> exact published now here _ _ ended
  cases phase with
  | absent | calling | ended | cutOff => exact before
  | running prior outcome now => exact closed now rfl prior outcome world before
  | waiting prior now =>
    have entered := begun now rfl _ prior
      (published now rfl world (.inProgress (Executor.nextAttempt prior)) before)
    simp only [advance]
    generalize lifecycle.executor.beginAttempt lifecycle.unit prior now _ = half at entered ⊢
    obtain ⟨result | response, world⟩ := half
    · exact published now rfl _ _ entered
    · dsimp only
      split
      · exact closed now rfl prior response.outcome world entered
      · exact entered

/-- No turn comes before the last one. -/
theorem le_due_advance {lifecycle : Lifecycle} {phase : Phase} {world : World} {now due : Nat}
    (here : now ∈ phase.due?) (next : due ∈ (lifecycle.advance (phase, world)).1.due?) :
    now ≤ due := by
  have closed (prior : Nat) (outcome : Except Fault Unit) (world : World)
      (next : due ∈ (lifecycle.close prior outcome now world).1.due?) : now ≤ due := by
    simp only [close] at next
    split at next <;> cases next
    exact Nat.le_add_right _ _
  cases phase with
  | absent | calling | ended | cutOff => cases here
  | running prior outcome =>
    cases here
    exact closed prior outcome world next
  | waiting prior =>
    cases here
    simp only [advance] at next
    split at next
    · cases next
    · -- the operation answers at once, or after its latency
      split at next
      · exact closed _ _ _ next
      · cases next
        exact Nat.le_add_right _ _

section

variable {executor : Executor} {unit : WorkUnit} {here there now : Nat} {first second : World}

theorem close_of_sight (plain : executor.IsPlain)
    (same : executor.sight unit here now first = executor.sight unit there now second) (prior : Nat)
    (outcome : Except Fault Unit) :
    (Lifecycle.close ⟨executor, unit, here⟩ prior outcome now first).1 =
        (Lifecycle.close ⟨executor, unit, there⟩ prior outcome now second).1 ∧
      executor.sight unit here now
          (Lifecycle.close ⟨executor, unit, here⟩ prior outcome now first).2 =
        executor.sight unit there now
          (Lifecycle.close ⟨executor, unit, there⟩ prior outcome now second).2 := by
  obtain ⟨sequel, ended⟩ := Executor.endAttempt_of_sight plain same prior outcome
  simp only [close]
  generalize executor.endAttempt unit prior outcome now first = firstHalf at sequel ended ⊢
  generalize executor.endAttempt unit prior outcome now second = secondHalf at sequel ended ⊢
  obtain ⟨answer, first⟩ := firstHalf
  obtain ⟨also, second⟩ := secondHalf
  obtain rfl : answer = also := sequel
  cases answer <;>
    exact ⟨rfl, by rw [Executor.sight_publish, Executor.sight_publish, ended]⟩

/-- A turn depends on the sight, but not on the handle. -/
theorem advance_of_sight (plain : executor.IsPlain)
    (same : executor.sight unit here now first = executor.sight unit there now second)
    (predicts : Executor.Predicts unit (executor.sight unit there now second).respond)
    {phase : Phase} (goesOn : phase.due? = some now) :
    (Lifecycle.advance ⟨executor, unit, here⟩ (phase, first)).1 =
        (Lifecycle.advance ⟨executor, unit, there⟩ (phase, second)).1 ∧
      executor.sight unit here now
          (Lifecycle.advance ⟨executor, unit, here⟩ (phase, first)).2 =
        executor.sight unit there now
          (Lifecycle.advance ⟨executor, unit, there⟩ (phase, second)).2 := by
  cases phase with
  | absent | calling | ended | cutOff => cases goesOn
  | running prior outcome due =>
    cases goesOn
    exact close_of_sight plain same prior outcome
  | waiting prior due =>
    cases goesOn
    -- the handle shows its number before the source and the breaker are asked
    have entered : executor.sight unit here now
        (first.publish now here (.inProgress (Executor.nextAttempt prior))) =
          executor.sight unit there now
            (second.publish now there (.inProgress (Executor.nextAttempt prior))) := by
      rw [Executor.sight_publish, Executor.sight_publish, same]
    obtain ⟨begun, begins⟩ := Executor.beginAttempt_of_sight plain entered predicts prior
    simp only [advance]
    generalize executor.beginAttempt unit prior now (first.publish now here _) = firstHalf
      at begun begins ⊢
    generalize executor.beginAttempt unit prior now (second.publish now there _) = secondHalf
      at begun begins ⊢
    obtain ⟨answer, first⟩ := firstHalf
    obtain ⟨also, second⟩ := secondHalf
    obtain rfl : answer = also := begun
    cases answer with
    | ended result =>
      exact ⟨rfl, by rw [Executor.sight_publish, Executor.sight_publish, begins]⟩
    | running response =>
      dsimp only
      split
      · exact close_of_sight plain begins prior response.outcome
      · exact ⟨rfl, begins⟩

/-- Turns of other lifecycles change nothing in sight. -/
theorem sight_advance_of_other {lifecycle : Lifecycle} {handle : Nat} {phase : Phase}
    {world : World} (plain : lifecycle.executor.IsPlain) (apart : unit.IsApart lifecycle.unit)
    (elsewhere : lifecycle.handle ≠ handle) :
    lifecycle.executor.sight unit handle now (lifecycle.advance (phase, world)).2 =
      lifecycle.executor.sight unit handle now world :=
  advance_preserves
    (fun later => lifecycle.executor.sight unit handle now later =
      lifecycle.executor.sight unit handle now world)
    (fun _ _ _ status before => (Executor.sight_publish_of_ne elsewhere status).trans before)
    (fun time _ world prior before =>
      (Executor.sight_beginAttempt_of_other time world plain apart prior).trans before)
    (fun time _ world prior outcome before =>
      (Executor.sight_endAttempt_of_other time world plain apart prior outcome).trans before)
    rfl

variable {lifecycle : Lifecycle} {phase : Phase} {world : World}

theorem isSound_advance (sound : world.ledger.IsSound) :
    (lifecycle.advance (phase, world)).2.ledger.IsSound :=
  advance_preserves (fun later => later.ledger.IsSound) (fun _ _ _ _ before => before)
    (fun now _ world prior before => by
      obtain ⟨_, opening, -⟩ :=
        lifecycle.executor.opening_beginAttempt lifecycle.unit prior now world
      exact opening.isSound before)
    (fun now _ world prior outcome before => by
      obtain ⟨_, closing, -⟩ :=
        lifecycle.executor.closing_endAttempt lifecycle.unit prior now world outcome
      exact closing.isSound before)
    sound

theorem schedulers_advance : (lifecycle.advance (phase, world)).2.schedulers = world.schedulers :=
  advance_preserves (fun later => later.schedulers = world.schedulers)
    (fun _ _ _ _ before => before)
    (fun now _ later prior before =>
      (lifecycle.executor.schedulers_beginAttempt lifecycle.unit prior now later).trans before)
    (fun now _ later prior outcome before =>
      (lifecycle.executor.schedulers_endAttempt lifecycle.unit prior outcome now later).trans before)
    rfl

theorem respond_advance :
    ((lifecycle.advance (phase, world)).2.operation lifecycle.executor.operation).respond =
      (world.operation lifecycle.executor.operation).respond :=
  advance_preserves
    (fun later => (later.operation lifecycle.executor.operation).respond =
      (world.operation lifecycle.executor.operation).respond)
    (fun _ _ _ _ before => before)
    (fun _ _ _ prior before => (Executor.respond_beginAttempt prior).trans before)
    (fun now _ later prior outcome before => by
      obtain ⟨_, closing, -⟩ :=
        lifecycle.executor.closing_endAttempt lifecycle.unit prior now later outcome
      have operations := closing.fixed.1
      simp only [World.holdings] at operations
      rwa [World.operation, operations, ← World.operation])
    rfl

/-- A turn tells of its own time. -/
theorem grows_advance (plain : lifecycle.executor.IsPlain) (here : phase.due? = some now) :
    Chronicle.Grows now (world.chronicle lifecycle.unit lifecycle.handle)
      ((lifecycle.advance (phase, world)).2.chronicle lifecycle.unit lifecycle.handle) := by
  have same (time : Nat) (due : time ∈ phase.due?) : time = now :=
    Option.some.inj (due.symm.trans here)
  refine advance_preserves (fun later => Chronicle.Grows now
    (world.chronicle lifecycle.unit lifecycle.handle)
    (later.chronicle lifecycle.unit lifecycle.handle)) ?_ ?_ ?_ (.refl _ _)
  · intro time due later status before
    obtain rfl := same time due
    exact before.trans (World.grows_publish later _ _ _ status)
  · intro time due later prior before
    obtain rfl := same time due
    exact before.trans (World.grows_beginAttempt plain prior)
  · intro time due later prior outcome before
    obtain rfl := same time due
    exact before.trans (World.grows_endAttempt plain prior outcome)

end

end Lifecycle

/-! ## Courses -/

namespace Executor

/-- The phase and the world of a lifecycle after some turns that nobody else comes in between, when
its unit is submitted to a world at some time. -/
def course (executor : Executor) (unit : WorkUnit) (world : World) (now turns : Nat) :
    Phase × World :=
  (Lifecycle.advance ⟨executor, unit, 0⟩)^[turns]
    (.waiting 0 now, world.publish now 0 .pending)

variable {executor : Executor} {unit : WorkUnit} {world : World} {now time turns later : Nat}

theorem course_succ (executor : Executor) (unit : WorkUnit) (world : World) (now turns : Nat) :
    executor.course unit world now (turns + 1) =
      Lifecycle.advance ⟨executor, unit, 0⟩ (executor.course unit world now turns) :=
  Function.iterate_succ_apply' _ _ _

/-- The operation goes on responding in the same way. -/
theorem respond_course (turns : Nat) :
    ((executor.course unit world now turns).2.operation executor.operation).respond =
      (world.operation executor.operation).respond := by
  induction turns with
  | zero => rfl
  | succ turns ih =>
    rw [course_succ]
    exact Lifecycle.respond_advance.trans ih

/-- A course that has ended takes no more turns. -/
theorem course_of_ended {result : Except Failure Completion}
    (ended : (executor.course unit world now turns).1 = .ended result) (upTo : turns ≤ later) :
    executor.course unit world now later = executor.course unit world now turns := by
  induction later, upTo using Nat.le_induction with
  | base => rfl
  | succ later _ ih =>
    rw [course_succ, ih]
    generalize executor.course unit world now turns = here at ended
    obtain ⟨phase, world⟩ := here
    obtain rfl : phase = .ended result := ended
    rfl

/-- Later turns tell nothing of times before the next turn. -/
theorem before_course (plain : executor.IsPlain)
    (ahead : ∀ due ∈ (executor.course unit world now turns).1.due?, time ≤ due)
    (upTo : turns ≤ later) :
    ((executor.course unit world now later).2.chronicle unit 0).before time =
      ((executor.course unit world now turns).2.chronicle unit 0).before time := by
  -- the turns that follow do not come before the time either, which carries the induction
  suffices both : ((executor.course unit world now later).2.chronicle unit 0).before time =
      ((executor.course unit world now turns).2.chronicle unit 0).before time ∧
      ∀ due ∈ (executor.course unit world now later).1.due?, time ≤ due from both.1
  induction later, upTo using Nat.le_induction with
  | base => exact ⟨rfl, ahead⟩
  | succ later _ ih =>
    obtain ⟨same, ahead⟩ := ih
    rw [course_succ]
    generalize executor.course unit world now later = here at same ahead ⊢
    obtain ⟨phase, world⟩ := here
    cases next : phase.due? with
    | none =>
      -- the course is over
      have still : Lifecycle.advance ⟨executor, unit, 0⟩ (phase, world) = (phase, world) := by
        cases phase with
        | absent | calling | ended | cutOff => rfl
        | waiting | running => cases next
      rw [still]
      exact ⟨same, ahead⟩
    | some due =>
      have grows := @Lifecycle.grows_advance due ⟨executor, unit, 0⟩ phase world plain next
      exact ⟨(grows.before (ahead due next)).trans same, fun following member =>
        (ahead due next).trans (Lifecycle.le_due_advance next member)⟩

end Executor

end Resilience
