import Resilience.Proofs.EventLoop.Settling
import Resilience.Proofs.Executor.Calls
import Resilience.Proofs.Executor.Reference

/-!
# Executing a unit

A lifecycle whose invocations are all known comes to what its reference tells. Whatever else happens
in the scene, as long as the counter serves the key at its place whenever an invocation ends, the
lifecycle has made its first invocations at the times of the reference, nobody gets another result
than that of the reference, and once the clock has passed the end of the last invocation the result
is there. On a loop without other tasks executing the unit returns it, since every attempt leaves one
attempt less to make.

A counter that never fails may still count a key at two places, one after the other, and then a
lifecycle makes more invocations than its reference.

## Main definitions

* `Executor.left` — what a job leaves to do of the attempts that a policy allows
* `Reference.Ends` — a lifecycle has ended as its reference tells
* `Reference.Begins` — a scene on which a unit can be submitted
* `Reference.IsServed` — the counter serves the key whenever an invocation ends
* `Reference.Follows` — a scene that shows a lifecycle where its reference tells

## Main statements

* `Lifecycle.attempt_adds`, `Lifecycle.conclude_adds` — a job is replaced by one at most
* `Reference.Follows.after`, `Reference.Follows.play` — a lifecycle keeps to its reference
* `Reference.Begins.winds` — a lifecycle alone on its loop comes to rest
* `Scene.execute_reference` — executing a unit comes to what its reference tells
* `Scene.execute_beyond_reference` — a counter that falls back does not keep to the reference
-/

namespace Resilience

/-! ## Jobs that replace a job -/

namespace Lifecycle

variable {lifecycle : Lifecycle} {run : Universe} {prior : Nat} {fits : Job → Prop}

/-- What is postponed is added, if its scheduler accepts it. -/
theorem postpone_adds {attempt : Nat} (fit : fits (.attempt lifecycle attempt)) (delay : Duration)
    (run : Universe) : run.loop.Adds fits (lifecycle.postpone attempt delay run).loop := by
  by_cases shut : (run.state.scheduler lifecycle.executor.scheduler).isShutDown = true
  · rw [postpone_of_shut shut]
    exact .nothing
  · rw [postpone_of_open (Bool.eq_false_iff.2 shut)]
    exact .ready _ fit

/-- The second half of an attempt adds the next attempt, if there is to be one. -/
theorem conclude_adds (outcome : Except Fault Unit)
    (again : ∀ attempt delay, (lifecycle.executor.endAttempt lifecycle.unit prior outcome
      run.loop.now run.state).1 = .retry attempt delay → fits (.attempt lifecycle attempt)) :
    run.loop.Adds fits (lifecycle.conclude prior outcome run).loop := by
  unfold conclude
  rcases ended : lifecycle.executor.endAttempt lifecycle.unit prior outcome run.loop.now run.state
    with ⟨result | ⟨attempt, delay⟩, world⟩
  · exact .nothing
  · rw [ended] at again
    exact postpone_adds (again attempt delay rfl) delay { run with state := world }

/-- Until an operation has ended nothing is counted. -/
theorem Begins.ledger {response : Response} {world : World}
    (begins : lifecycle.Begins prior run (.running response) world) :
    world.ledger = run.state.ledger := by
  obtain ⟨_, opening, -⟩ := lifecycle.executor.opening_beginAttempt lifecycle.unit prior
    run.loop.now (lifecycle.publish (.inProgress (Executor.nextAttempt prior)) run).state
  rw [begins] at opening
  exact opening.of_running.1

/-- The first half of an attempt adds the second one, or what follows that at once. -/
theorem attempt_adds (waits : ∀ outcome, fits (.conclude lifecycle prior outcome))
    (again : ∀ outcome attempt delay, ∀ world : World, world.ledger = run.state.ledger →
      (lifecycle.executor.endAttempt lifecycle.unit prior outcome run.loop.now world).1 =
        .retry attempt delay → fits (.attempt lifecycle attempt)) :
    run.loop.Adds fits (lifecycle.attempt prior run).loop := by
  have comes := lifecycle.attempts prior run
  generalize lifecycle.attempt prior run = next at comes ⊢
  cases comes with
  | ended => exact .nothing
  | @atOnce response world begins =>
    exact @conclude_adds lifecycle { run with state := world } prior fits response.outcome
      fun attempt delay => again response.outcome attempt delay world begins.ledger
  | lasting => exact .asleep _ _ rfl (waits _)

end Lifecycle

/-- When no task is left, every wait is over. -/
theorem World.isSettled_of_tasks_eq_nil {run : Universe} (none : run.loop.tasks = [])
    (handle : Nat) : World.isSettled handle run = true := by
  rw [World.isSettled, World.isTracked, none, List.any_nil, Bool.not_false, Bool.or_true]

/-- The number handed over to the attempt of a job. -/
def Job.prior : Job → Nat
  | attempt _ prior | conclude _ prior _ => prior

namespace Executor

/-- What a job leaves to do, counted in halves of the attempts that a policy allows. -/
def left (executor : Executor) : Job → Nat
  | .attempt _ prior => 2 * (executor.mostInvocations - prior)
  | .conclude _ prior _ => 2 * (executor.mostInvocations - prior) - 1

variable {executor : Executor} {unit : WorkUnit} {budget : Budget} {prior : Nat}

/-- A failed attempt is followed by one with the next number. -/
theorem number_of_retry (shares : budget.Shares executor unit) {world : World}
    (keeps : budget.Keeps prior world.ledger) (small : prior < greatestAttempt)
    {outcome : Except Fault Unit} {now attempt : Nat} {delay : Duration}
    (again : (executor.endAttempt unit prior outcome now world).1 = .retry attempt delay) :
    attempt = prior + 1 := by
  obtain ⟨_, closing, -⟩ := executor.closing_endAttempt unit prior now world outcome
  rw [again] at closing
  exact closing.number_of_retry.trans (keeps.number shares small now fun _ => rfl)

/-- A job is replaced by one at most, which leaves less to do. -/
theorem perform_adds {task : Task Job} (run : Universe)
    (shares : budget.Shares task.body.lifecycle.executor task.body.lifecycle.unit)
    (keeps : budget.Keeps task.body.prior run.state.ledger)
    (within : task.body.prior < task.body.lifecycle.executor.mostInvocations) :
    run.loop.Adds
      (task.body.lifecycle.executor.left · < task.body.lifecycle.executor.left task.body)
      (World.reactor.perform task run).loop := by
  obtain ⟨owner, delay, body⟩ := task
  cases body with
  | attempt lifecycle prior =>
    dsimp only [Job.lifecycle, Job.prior] at shares keeps within ⊢
    have small := within.trans_le lifecycle.executor.mostInvocations_le
    refine Lifecycle.attempt_adds (fun outcome => ?_) fun outcome attempt delay world same again => ?_
    · dsimp only [left]
      omega
    · obtain rfl := number_of_retry shares (same ▸ keeps) small again
      dsimp only [left]
      omega
  | conclude lifecycle prior outcome =>
    dsimp only [Job.lifecycle, Job.prior] at shares keeps within ⊢
    have small := within.trans_le lifecycle.executor.mostInvocations_le
    refine Lifecycle.conclude_adds outcome fun attempt delay again => ?_
    obtain rfl := number_of_retry shares keeps small again
    dsimp only [left]
    omega

end Executor

/-! ## Scenes in accord with a reference -/

namespace Reference

variable {reference : Reference} {budget : Budget}

/-- A lifecycle has ended as its reference tells: with its result, after its invocations, and once
the actions of its compensation have run. -/
structure Ends (reference : Reference) (world : World) (result : Except Failure Completion) :
    Prop where
  result : result = reference.result
  times : reference.callTimes world = (List.range (reference.last + 1)).map reference.start
  actions : (world.account fun unit => unit.retryKey = reference.unit.retryKey).actions =
    reference.actions

/-- A scene on which a unit can be submitted: it is the time for it, no invocation has been made for
its key, and nothing has been counted. -/
structure Begins (reference : Reference) (budget : Budget) (scene : Scene) : Prop where
  now : reference.begins = scene.run.loop.now
  accords : reference.Accords 0 scene.run.state
  isAt : budget.IsAt 0 scene.run.state.ledger

/-- In some moves from a scene on, the counter serves the key at every turn that is taken at the end
of an invocation. -/
def IsServed (reference : Reference) (budget : Budget) (scene : Scene) (moves : List Move) : Prop :=
  ∀ early late, moves = early ++ .loop .turn :: late → ∀ earlier ≤ reference.last,
    (scene.play early).run.loop.now = reference.finish earlier →
      budget.Served (scene.play early).run.state.ledger

/-- The lifecycle in the background, with the next handle of a scene. -/
def lifecycle (reference : Reference) (scene : Scene) : Lifecycle :=
  ⟨reference.executor, reference.unit, scene.run.state.freshHandle⟩

/-- The task of its first attempt. -/
def first (reference : Reference) (scene : Scene) : Task Job where
  owner := some (scene.run.state.scheduler reference.executor.scheduler).id
  body := .attempt (reference.lifecycle scene) 0

theorem Begins.submit {scene : Scene} (begins : reference.Begins budget scene) :
    reference.executor.submit reference.unit scene.run =
      (.ok (reference.lifecycle scene).handle, (reference.lifecycle scene).publish .pending
        { scene.run with loop := scene.run.loop.spawn (reference.first scene) }) :=
  Executor.submit_of_open begins.accords.isOpen reference.unit

theorem Begins.after_submit {scene : Scene} (begins : reference.Begins budget scene) :
    scene.after (.submit reference.executor reference.unit) =
      scene.handing (reference.lifecycle scene) ((reference.lifecycle scene).publish .pending
        { scene.run with loop := scene.run.loop.spawn (reference.first scene) }) :=
  Scene.after_submit_of_open begins.accords.isOpen reference.unit

/-! ### Following a reference -/

/-- A scene that shows a lifecycle where its reference tells. -/
structure Follows (reference : Reference) (budget : Budget) (scene : Scene) (phase : Phase) :
    Prop where
  tidy : scene.Tidy
  peopled : scene.Peopled (reference.others budget)
  shows : phase.Shows reference.executor reference.unit
    (scene.signsOf (reference.others budget).mine)
  accords : phase.Accords reference budget
    (scene.run.state.account (reference.others budget).mine).actions scene.run.state
  here : phase.isCutOff = false

/-- In the turn of an attempt whose operation takes time, nothing is counted: whether the counter
serves the key or not, the operation is left running. -/
theorem accords_of_lasting (fits : reference.Fits budget) {lifecycle : Lifecycle} {run : Universe}
    {prior : Nat} (executor : reference.executor = lifecycle.executor)
    (unit : reference.unit = lifecycle.unit)
    (accords : (Phase.waiting prior run.loop.now).Accords reference budget
      (run.state.account (reference.others budget).mine).actions run.state)
    (lasts : (reference.script prior).latency ≠ .zero) :
    ∃ item ∈ (lifecycle.attempt prior run).loop.agenda, item.body.lifecycle = lifecycle ∧
      (item.body.phase item.due).Accords reference budget
        ((lifecycle.attempt prior run).state.account (reference.others budget).mine).actions
        (lifecycle.attempt prior run).state := by
  have shown : Deed.Aside (reference.others budget)
      (.publish run.loop.now lifecycle.handle (.inProgress (Executor.nextAttempt prior))) := trivial
  obtain ⟨running, begun⟩ := (accords.aside fits shown).begun fits
  have half {begin : Begun} {world : World} (begins : lifecycle.Begins prior run begin world) :
      reference.executor.beginAttempt reference.unit prior run.loop.now
        (run.state.perform (.publish run.loop.now lifecycle.handle
          (.inProgress (Executor.nextAttempt prior)))) = (begin, world) := by
    rw [executor, unit]
    exact begins
  have comes := lifecycle.attempts prior run
  generalize lifecycle.attempt prior run = next at comes ⊢
  -- by the reference the operation is running, so the attempt neither ends nor goes on at once
  cases comes with
  | ended begins =>
    rw [half begins] at running
    cases running
  | atOnce begins instant =>
    rw [half begins] at running
    cases running
    exact absurd instant lasts
  | @lasting response world begins =>
    rw [half begins] at begun
    refine ⟨⟨run.loop.now + response.latency.waitMillis, some lifecycle.executor.scheduler,
      .conclude lifecycle prior response.outcome⟩, ?_, rfl, begun⟩
    rw [EventLoop.agenda_sleep, Task.appointment, Duration.waitMillis_zero, Nat.add_zero]
    exact Multiset.mem_cons_self _ _

namespace Follows

variable {scene next : Scene} {phase : Phase}

/-- What happens aside leaves the lifecycle where it is. -/
theorem aside (fits : reference.Fits budget) (follows : reference.Follows budget scene phase)
    (tidy : next.Tidy) (peopled : next.Peopled (reference.others budget))
    (same : next.signsOf (reference.others budget).mine =
      scene.signsOf (reference.others budget).mine)
    (story : Story (reference.others budget) reference.executor reference.unit
      (.cutOff false, scene.run.state) (.cutOff false, next.run.state)) :
    reference.Follows budget next phase where
  tidy := tidy
  peopled := peopled
  shows := same ▸ follows.shows
  accords :=
    have still (world : World) (deed : Deed) (aside : deed.Aside (reference.others budget))
        (accords : phase.Accords reference budget
          (world.account (reference.others budget).mine).actions world) :=
      accords.aside fits aside
    story.holds_of_cutOff still rfl follows.accords
  here := follows.here

/-- The turn of the lifecycle itself. -/
theorem turn (fits : reference.Fits budget) {owner : Option Nat} {body : Job}
    {status : Option Status} {later : Phase}
    (follows : reference.Follows budget scene (body.phase scene.run.loop.now))
    (served : ∀ earlier ≤ reference.last, scene.run.loop.now = reference.finish earlier →
      budget.Served scene.run.state.ledger)
    (executor : reference.executor = body.lifecycle.executor)
    (unit : reference.unit = body.lifecycle.unit)
    (acts : Scene.Acts reference.executor reference.unit (body.phase scene.run.loop.now) later
      ({.task ⟨scene.run.loop.now, owner, body⟩} + {.handle body.lifecycle status}) scene next)
    (performs : scene.Performs owner body next.run)
    (shows : later.Shows reference.executor reference.unit
      (next.signsOf (reference.others budget).mine)) :
    later.Accords reference budget
      (next.run.state.account (reference.others budget).mine).actions next.run.state := by
  by_cases now : budget.Served scene.run.state.ledger
  · obtain ⟨_, _, _, _, _, _, story⟩ := acts
    exact (story (reference.company budget)).accords fits now follows.accords
  · -- the counter is out of service, so this is not the end of an invocation
    have accords := follows.accords
    obtain ⟨delay, loop, same, performed⟩ := performs
    cases body with
    | conclude lifecycle prior outcome =>
      generalize scene.run.loop.now = time at accords served
      cases accords with
      | running upTo => exact absurd (served prior upTo rfl) now
    | attempt lifecycle prior =>
      -- an operation that takes no time would end in this turn
      have lasts : (reference.script prior).latency ≠ .zero := by
        intro instant
        generalize scene.run.loop.now = time at accords served
        cases accords with
        | waiting upTo =>
          refine now (served prior upTo ?_)
          rw [finish, instant, Duration.waitMillis_zero, Nat.add_zero]
      rw [Job.phase, ← same] at accords
      obtain ⟨item, planned, about, arrives⟩ :=
        @accords_of_lasting reference budget fits lifecycle { scene.run with loop } prior executor
          unit accords lasts
      rw [show lifecycle.attempt prior { scene.run with loop } = next.run from performed.symm]
        at planned arrives
      obtain ⟨rfl, -⟩ := Scene.phase_of_appointed shows planned (by
        rw [about, show lifecycle.unit = reference.unit from unit.symm]
        exact fits.shares.own fun _ => False)
      exact arrives

/-- A move leaves the lifecycle where its reference tells. -/
theorem after (fits : reference.Fits budget) (follows : reference.Follows budget scene phase)
    {move : Move} (allowed : move.Allowed (reference.others budget))
    (unstarted : Scene.startOf? (reference.others budget).mine move = none)
    (served : move = .loop .turn → ∀ earlier ≤ reference.last,
      scene.run.loop.now = reference.finish earlier → budget.Served scene.run.state.ledger) :
    ∃ later, reference.Follows budget (scene.after move) later := by
  obtain ⟨tidy, passage⟩ := follows.tidy.after move
  have peopled := passage.peopled allowed follows.peopled
  have regards := passage.regards allowed follows.peopled (Scene.apart_of_startOf? unstarted)
    follows.shows
  generalize scene.after move = next at tidy passage peopled regards ⊢
  cases regards with
  | aside gone cut signs story =>
    -- nobody is allowed to cut tasks off
    have uncut : gone = 0 := by
      by_contra some_gone
      obtain ⟨scheduler, rfl⟩ := cut some_gone
      exact allowed
    rw [uncut, Multiset.map_zero, Multiset.zero_add] at signs
    exact ⟨phase, follows.aside fits tidy peopled signs.symm (story _)⟩
  | turned about acts goes turn performs =>
    obtain ⟨_, _, _, _, _, regular, _⟩ := id acts
    exact ⟨_, tidy, peopled, goes,
      follows.turn fits (served turn) about.1 about.2 acts performs goes,
      (Phase.ne_of_isRegular regular).2⟩
  | called =>
    -- the lifecycle is in the background
    cases follows.accords

/-- A lifecycle keeps to its reference in all moves, as long as the counter serves the key whenever an
invocation ends. -/
theorem play (fits : reference.Fits budget) (moves : List Move)
    (follows : reference.Follows budget scene phase)
    (allowed : ∀ move ∈ moves, move.Allowed (reference.others budget))
    (unstarted : Scene.starts (reference.others budget).mine moves = [])
    (served : reference.IsServed budget scene moves) :
    ∃ later, reference.Follows budget (scene.play moves) later := by
  induction moves generalizing scene phase with
  | nil => exact ⟨phase, follows⟩
  | cons move moves ih =>
    have apart := List.filterMap_eq_nil_iff.1 unstarted
    obtain ⟨middle, next⟩ := follows.after fits (allowed move List.mem_cons_self)
      (apart move List.mem_cons_self) fun turn => served [] moves (by rw [turn, List.nil_append])
    refine ih next (fun other member => allowed other (List.mem_cons_of_mem _ member))
      (List.filterMap_eq_nil_iff.2 fun other member => apart other (List.mem_cons_of_mem _ member))
      fun early late split => ?_
    exact served (move :: early) late (by rw [split, List.cons_append])

/-- The invocations made so far are the first ones of the reference. -/
theorem times (follows : reference.Follows budget scene phase) :
    ∃ made ≤ reference.last + 1,
      reference.callTimes scene.run.state = (List.range made).map reference.start := by
  have accords := follows.accords
  cases phase with
  | absent | calling => cases accords
  | cutOff => cases follows.here
  | waiting =>
    cases accords with
    | waiting upTo isAt accords => exact ⟨_, Nat.le_succ_of_le upTo, accords.times⟩
  | running =>
    cases accords with
    | running upTo isAt accords => exact ⟨_, Nat.succ_le_succ upTo, accords.times⟩
  | ended =>
    cases accords with
    | ended accords => exact ⟨_, Nat.le_refl _, accords.times⟩

/-- Nobody gets another result than that of the reference. -/
theorem ends (fits : reference.Fits budget) (follows : reference.Follows budget scene phase)
    {result : Except Failure Completion} (gives : scene.Gives reference.unit result) :
    reference.Ends scene.run.state result := by
  have own : (reference.others budget).mine reference.unit = true := fits.shares.own fun _ => False
  rcases Scene.phase_of_gives follows.shows own gives with rfl | ⟨⟨invoked, rfl⟩, -⟩
  · cases follows.accords with
    | ended accords acted => exact ⟨rfl, accords.times, fits.shares.key ▸ acted⟩
  · cases follows.here

/-- Once the clock has passed the end of the last invocation, the result is there. -/
theorem gives (follows : reference.Follows budget scene phase) (ordered : scene.run.loop.Ordered)
    (passed : reference.finish reference.last < scene.run.loop.now) :
    scene.Gives reference.unit reference.result := by
  have ahead {due : Nat} (goesOn : phase.due? = some due) : scene.run.loop.now ≤ due := by
    obtain ⟨item, member, rfl⟩ := Scene.appointed_of_due? follows.shows goesOn
    exact ordered.le_due member
  obtain ⟨tidy, peopled, shows, accords, here⟩ := follows
  cases accords with
  | waiting upTo =>
    have due := ahead rfl
    have bound := reference.start_le_finish upTo
    omega
  | running upTo =>
    have due := ahead rfl
    have bound := reference.finish_le_finish upTo
    omega
  | ended => exact Scene.gives_of_ended shows
  | cutOff => cases here

end Follows

variable {world : World} {now : Nat} {early : List Move}

/-- From the submission of its unit on, a lifecycle is where its reference tells. -/
theorem Begins.follows (fits : reference.Fits budget)
    (begins : reference.Begins budget ((Scene.opening world now).play early))
    (allowed : ∀ move ∈ early, move.Allowed (reference.others budget))
    (unstarted : Scene.starts (reference.others budget).mine early = []) :
    reference.Follows budget (((Scene.opening world now).play early).after
      (.submit reference.executor reference.unit)) (.waiting 0 (reference.start 0)) := by
  have own : (reference.others budget).mine reference.unit = true := fits.shares.own fun _ => False
  obtain ⟨shows, story, peopled⟩ :=
    Scene.waits_after_submit world now early allowed unstarted own begins.accords.isOpen
  obtain ⟨retries, told⟩ := story.accounts own rfl
  have due : ((Scene.opening world now).play early).run.loop.now = reference.start 0 :=
    begins.now.symm
  rw [due] at shows
  have submitted : reference.Accords 0 (((Scene.opening world now).play early).after
      (.submit reference.executor reference.unit)).run.state := by
    rw [begins.after_submit]
    exact begins.accords.of_fixed rfl rfl
  have uncounted : budget.IsAt 0 (((Scene.opening world now).play early).after
      (.submit reference.executor reference.unit)).run.state.ledger := by
    rw [begins.after_submit]
    exact begins.isAt
  exact ⟨(((Scene.tidy_opening world now).play early).after _).1, peopled, shows,
    .waiting (Nat.zero_le _) uncounted submitted (congrArg Account.actions told), rfl⟩

/-- What serves the key before the submission serves it afterwards. -/
theorem Begins.served_submitted {scene : Scene} (begins : reference.Begins budget scene)
    (served : budget.Served scene.run.state.ledger) :
    budget.Served (scene.after (.submit reference.executor reference.unit)).run.state.ledger := by
  rw [begins.after_submit]
  exact served

/-- A counter that serves the key goes on serving it while only the loop moves. -/
theorem isServed_loops {scene : Scene} (served : budget.Served scene.run.state.ledger)
    (moves : List LoopMove) : reference.IsServed budget scene (moves.map .loop) := by
  intro early late split earlier upTo now
  obtain ⟨done, left, rfl, rfl, -⟩ := List.map_eq_append_iff.1 split
  exact served.of_same (scene.isAvailable_loops done)

/-- A lifecycle keeps to its reference while only the loop moves. -/
theorem Begins.follows_loops (fits : reference.Fits budget)
    (begins : reference.Begins budget ((Scene.opening world now).play early))
    (allowed : ∀ move ∈ early, move.Allowed (reference.others budget))
    (unstarted : Scene.starts (reference.others budget).mine early = [])
    (served : budget.Served ((Scene.opening world now).play early).run.state.ledger)
    (moves : List LoopMove) :
    ∃ phase, reference.Follows budget ((((Scene.opening world now).play early).after
      (.submit reference.executor reference.unit)).play (moves.map .loop)) phase :=
  (begins.follows fits allowed unstarted).play fits (moves.map .loop) (Scene.allowed_loops _ moves)
    (Scene.starts_loops _ moves) (isServed_loops (begins.served_submitted served) moves)

/-- A job in accord with the reference: all attempts before have been counted, and some are left. -/
theorem accords_of_job {actions : List Compensation} {world : World} {body : Job} {now : Nat}
    (accords : (body.phase now).Accords reference budget actions world) :
    budget.IsAt body.prior world.ledger ∧ body.prior < reference.executor.mostInvocations := by
  cases body with
  | attempt lifecycle prior =>
    cases accords with
    | waiting upTo isAt => exact ⟨isAt, Nat.lt_of_le_of_lt upTo reference.last_lt⟩
  | conclude lifecycle prior outcome =>
    cases accords with
    | running upTo isAt => exact ⟨isAt, Nat.lt_of_le_of_lt upTo reference.last_lt⟩

/-! ## Alone on a loop -/

/-- What the loop comes to after the submission of a unit, as long as all tasks are those of its
lifecycle. -/
def Alone (reference : Reference) (scene : Scene) (run : Universe) : Prop :=
  (∃ moves, run = World.reactor.play
      (scene.after (.submit reference.executor reference.unit)).run moves) ∧
    ∀ item ∈ run.loop.agenda, item.body.lifecycle = reference.lifecycle scene

variable {scene : Scene} {run next : Universe}

theorem Alone.turn (alone : reference.Alone scene run)
    (taken : World.reactor.turn? run = some next) : reference.Alone scene next := by
  obtain ⟨⟨moves, played⟩, about⟩ := alone
  refine ⟨⟨moves ++ [.turn], ?_⟩, ?_⟩
  · rw [Reactor.play_append, ← played, Reactor.play_turn taken]
    rfl
  · rcases Reactor.turn?_cases taken with ⟨same, -⟩ | ⟨task, rest, -, -, here, rfl⟩
    · rwa [same]
    · obtain ⟨_, items, _, stands, grown, -⟩ := World.perform_passes task.owner task.delay
        task.body { run with loop := { run.loop with ready := rest } }
      rw [here] at about
      intro item member
      rw [grown] at member
      rcases Multiset.mem_add.1 member with own | other
      · rw [stands.lifecycle_of_mem item own]
        exact about _ (Multiset.mem_cons_self _ _)
      · exact about item (Multiset.mem_cons_of_mem other)

theorem Alone.jump (ordered : scene.run.loop.Ordered) (alone : reference.Alone scene run)
    (idle : run.loop.ready = []) {due : Nat} (first : run.loop.nextDue? = some due) :
    reference.Alone scene (World.reactor.moveTo due run) := by
  obtain ⟨⟨moves, played⟩, about⟩ := alone
  have sorted : run.loop.Ordered := by
    rw [played]
    exact World.reactor_punctual.play (Scene.ordered_after ordered _) moves
  have reaches := sorted.canReach_next idle first
  refine ⟨⟨moves ++ [.jump due], ?_⟩, ?_⟩
  · rw [Reactor.play_append, ← played, Reactor.play_jump reaches]
    rfl
  · have same : (World.reactor.moveTo due run).loop.agenda = run.loop.agenda :=
      EventLoop.agenda_wakeAt reaches
    rwa [same]

/-- A lifecycle alone on its loop comes to rest. -/
theorem Begins.winds (fits : reference.Fits budget)
    (begins : reference.Begins budget ((Scene.opening world now).play early))
    (allowed : ∀ move ∈ early, move.Allowed (reference.others budget))
    (unstarted : Scene.starts (reference.others budget).mine early = [])
    (served : budget.Served ((Scene.opening world now).play early).run.state.ledger) :
    World.reactor.Winds reference.executor.left
      (reference.Alone ((Scene.opening world now).play early)) where
  turn := Alone.turn
  jump alone idle first :=
    alone.jump (Scene.ordered_play (Scene.ordered_opening world now) early) idle first
  adds {run task rest} alone waited ready := by
    obtain ⟨⟨moves, played⟩, about⟩ := alone
    have member : (⟨run.loop.now, task.owner, task.body⟩ : Appointment Job) ∈ run.loop.agenda := by
      rw [EventLoop.agenda_run ready waited]
      exact Multiset.mem_cons_self _ _
    have same : task.body.lifecycle = _ := about _ member
    -- the phase of the lifecycle tells how many attempts there are left to make
    obtain ⟨phase, follows⟩ := begins.follows_loops fits allowed unstarted served moves
    have serves := (begins.served_submitted served).of_same (Scene.isAvailable_loops _ moves)
    rw [Scene.play_loop, ← played] at follows serves
    obtain ⟨rfl, -⟩ := Scene.phase_of_appointed follows.shows member (by
      rw [same]
      exact fits.shares.own fun _ => False)
    obtain ⟨isAt, within⟩ := accords_of_job follows.accords
    have executor : task.body.lifecycle.executor = reference.executor := by
      rw [same]
      rfl
    have shares : budget.Shares task.body.lifecycle.executor task.body.lifecycle.unit := by
      rw [same]
      exact fits.shares
    rw [← executor] at within ⊢
    exact Executor.perform_adds { run with loop := { run.loop with ready := rest } } shares
      ⟨serves, isAt⟩ within

/-- Executing a unit on a loop without other tasks is over when its turns suffice. -/
theorem Begins.isSettled_execute (fits : reference.Fits budget)
    (begins : reference.Begins budget ((Scene.opening world now).play early))
    (allowed : ∀ move ∈ early, move.Allowed (reference.others budget))
    (unstarted : Scene.starts (reference.others budget).mine early = [])
    (served : budget.Served ((Scene.opening world now).play early).run.state.ledger)
    (idle : ((Scene.opening world now).play early).run.loop.tasks = []) {turns : Nat}
    (enough : 8 * reference.executor.mostInvocations + 1 < turns) :
    World.isSettled ((Scene.opening world now).play early).run.state.freshHandle
      (reference.executor.execute turns reference.unit
        ((Scene.opening world now).play early).run).2 = true := by
  have winds := begins.winds fits allowed unstarted served
  generalize (Scene.opening world now).play early = scene at begins idle winds ⊢
  let run := (reference.lifecycle scene).publish .pending
    { scene.run with loop := scene.run.loop.spawn (reference.first scene) }
  have alone : reference.Alone scene run := by
    refine ⟨⟨[], by rw [begins.after_submit]; rfl⟩, fun item member => ?_⟩
    rcases Multiset.mem_cons.1 (EventLoop.agenda_spawn _ _ ▸ member) with rfl | other
    · rfl
    · obtain ⟨task, unfinished, -⟩ := EventLoop.exists_task_of_mem_agenda other
      rw [idle] at unfinished
      exact absurd unfinished List.not_mem_nil
  -- what is left to do on the loop is what the new task has to do
  have rank : run.loop.rank reference.executor.left < turns := by
    have spawned := EventLoop.rank_spawn reference.executor.left scene.run.loop
      (reference.first scene)
    rw [EventLoop.rank_of_tasks_eq_nil idle, Nat.zero_add] at spawned
    refine Nat.lt_of_le_of_lt (Nat.le_of_eq spawned) ?_
    have waited : (reference.first scene).delay = .zero := rfl
    rw [Turn.rank, if_pos waited]
    dsimp only [first, Executor.left]
    omega
  rw [Executor.execute, begins.submit]
  dsimp only
  rw [Scene.wait_snd]
  rcases winds.runUntil (World.isSettled scene.run.state.freshHandle) turns alone rank
    with settled | rests
  · exact settled
  · exact World.isSettled_of_tasks_eq_nil rests _

end Reference

namespace Scene

/-- A lifecycle comes to what its reference tells. From the submission of its unit on, as long as the
counter serves the key whenever an invocation ends, it has made its first invocations at the times of
the reference; whoever gets a result gets that of the reference, after all its invocations and once
its compensation has run; and this result is there when the clock has passed the end of the last
invocation. Executing the unit returns it, if the loop has no other tasks and the turns suffice. -/
theorem execute_reference (reference : Reference) (budget : Budget) (world : World) (now : Nat)
    (early : List Move) (fits : reference.Fits budget)
    (allowed : ∀ move ∈ early, move.Allowed (reference.others budget))
    (unstarted : starts (reference.others budget).mine early = [])
    (begins : reference.Begins budget ((opening world now).play early)) :
    let before := (opening world now).play early
    let submitted := before.after (.submit reference.executor reference.unit)
    (∀ late, (∀ move ∈ late, move.Allowed (reference.others budget)) →
      starts (reference.others budget).mine late = [] →
      reference.IsServed budget submitted late →
      let scene := submitted.play late
      (∃ made ≤ reference.last + 1,
        reference.callTimes scene.run.state = (List.range made).map reference.start) ∧
      (∀ result, scene.Gives reference.unit result → reference.Ends scene.run.state result) ∧
      (reference.finish reference.last < scene.run.loop.now →
        scene.Gives reference.unit reference.result)) ∧
    (before.run.loop.tasks = [] → budget.Served before.run.state.ledger →
      ∀ turns, 8 * reference.executor.mostInvocations + 1 < turns →
      reference.Ends (reference.executor.execute turns reference.unit before.run).2.state
        (reference.executor.execute turns reference.unit before.run).1) := by
  intro before submitted
  have ordered := ordered_play (ordered_opening world now) early
  have first := begins.follows fits allowed unstarted
  refine ⟨fun late fair apart served => ?_, fun idle served turns enough => ?_⟩
  · obtain ⟨phase, follows⟩ := first.play fits late fair apart served
    exact ⟨follows.times, fun result gives => follows.ends fits gives,
      follows.gives (ordered_play (ordered_after ordered _) late)⟩
  · -- executing the unit is one of the ways to go on, so this too is read off the phase
    obtain ⟨moves, same, gives⟩ := execute_eq_play ordered reference.executor turns reference.unit
    have settled := begins.isSettled_execute fits allowed unstarted served idle enough
    rw [← same] at settled
    obtain ⟨phase, follows⟩ := begins.follows_loops fits allowed unstarted served moves
    rw [← same]
    exact follows.ends fits (gives settled)

/-- A unit whose first invocation fails after five milliseconds is completed by the second one, which
is made twenty milliseconds later. -/
theorem execute_reference_second :
    let executor : Executor :=
      { counter := .inProcess "counts" { defaultTtl := none }
        handler :=
          ⟨{ maxAttempts := 3, strategy := .fixed, baseDelay := .ofMillis 20 }, none⟩ }
    let unit : WorkUnit := ⟨"a", "deliver", none, .empty⟩
    let script (earlier : Nat) : Response :=
      if earlier = 0 then ⟨.ofMillis 5, .error (.of .timeout "late")⟩ else {}
    let operation : Operation :=
      { name := "flaky"
        respond := fun calls unit =>
          script (calls.countP fun call => call.unit.retryKey = unit.retryKey) }
    let world : World := { operations := Table.insert {} 0 operation }
    let reference : Reference := ⟨executor, unit, script, 0⟩
    let budget : Budget :=
      ⟨executor.counter, unit.retryKey, 3, some (.inProcess "counts" unit.retryKey)⟩
    let executed := executor.execute 32 unit (opening world 0).run
    (reference.Fits budget ∧ reference.Begins budget (opening world 0)) ∧
      reference.Ends executed.2.state executed.1 ∧
      reference.callTimes executed.2.state = [0, 25] := by
  intro executor unit script operation world reference budget executed
  have fits : reference.Fits budget := ⟨⟨rfl, rfl, rfl⟩, rfl, rfl, rfl⟩
  have accords : reference.Accords 0 (opening world 0).run.state :=
    ⟨fun _ => rfl, rfl, rfl, rfl⟩
  have unused : budget.Keeps 0 (opening world 0).run.state.ledger := .of_unused rfl rfl rfl
  have begins : reference.Begins budget (opening world 0) := ⟨rfl, accords, unused.holds⟩
  obtain ⟨-, returns⟩ := execute_reference reference budget world 0 [] fits
    (List.forall_mem_nil _) rfl begins
  exact ⟨⟨fits, begins⟩, returns rfl unused.serves 32 (by decide), by decide +kernel⟩

/-- A counter that falls back to counts in the process neither fails nor lets a count expire, whatever
stores are available; but an outage between two attempts makes it count from one again. The operation
always fails and is invoked three times, where the reference has two invocations. -/
theorem execute_beyond_reference :
    let counter : Counter :=
      .hybrid (.inProcess "near" { defaultTtl := none }) (.shared "far" "" none) .allShared true
    let executor : Executor :=
      { counter
        handler :=
          ⟨{ maxAttempts := 2, strategy := .fixed, baseDelay := .ofMillis 20 }, none⟩ }
    let unit : WorkUnit := ⟨"a", "deliver", none, .empty⟩
    let failing : Response := ⟨.zero, .error (.of .timeout "late")⟩
    let operation : Operation := { name := "down", respond := fun _ _ => failing }
    let world : World := { operations := Table.insert {} 0 operation }
    let reference : Reference := ⟨executor, unit, fun _ => failing, 0⟩
    let outage (world : World) : World :=
      { world with
        ledger := world.ledger.setStore "far" ((world.ledger.store "far").setAvailable false) }
    let moves : List Move :=
      [.submit executor unit, .loop .turn, .loop .turn, .intervene outage, .loop (.jump 20),
        .loop .turn, .loop .turn, .loop .turn, .loop (.jump 40), .loop .turn, .loop .turn]
    let scene := (opening world 0).play moves
    ((∀ available, ∃ place, counter.locate available unit.retryKey = .ok (place, none)) ∧
      (∀ place ∈ counter.places unit.retryKey, place.find? world.ledger = none) ∧
      starts (fun _ => true) moves = [(executor, unit)] ∧ reference.Accords 0 world) ∧
    reference.last + 1 = 2 ∧ reference.callTimes scene.run.state = [0, 20, 40] ∧
    ∃ result, scene.Gives unit result ∧ ¬ reference.Ends scene.run.state result := by
  intro counter executor unit failing operation world reference outage moves scene
  have last : reference.last + 1 = 2 := by decide +kernel
  obtain ⟨times, settled⟩ : reference.callTimes scene.run.state = [0, 20, 40] ∧
      World.isSettled 0 scene.run = true := by decide +kernel
  refine ⟨⟨fun available => ?_, by decide +kernel, rfl, fun _ => rfl, rfl, rfl, rfl⟩, last, times,
    World.resultOf scene.run 0, ?_, fun ends => ?_⟩
  · -- the far side serves the key while it is available, and the near side otherwise
    change ∃ place, Counter.farOrNear true (if available "far" then _ else _) _ = _
    cases available "far" with
    | true => exact ⟨.inStore "far" unit.retryKey, rfl⟩
    | false => exact ⟨.inProcess "near" unit.retryKey, rfl⟩
  · have handles : scene.handles = [⟨executor, unit, 0⟩] := rfl
    exact .inr ⟨⟨executor, unit, 0⟩, handles ▸ List.mem_singleton_self _, rfl, settled, rfl⟩
  · have many := congrArg List.length (times.symm.trans ends.times)
    rw [last] at many
    cases many

end Scene

end Resilience
