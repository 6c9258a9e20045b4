import Resilience.Proofs.Executor.Dealings
import Resilience.Proofs.Executor.Hosting
import Resilience.Proofs.Executor.Sight

/-!
# What handles show

Attempts show nothing themselves: it is the turns of lifecycles that publish statuses, each on the
handle of its own lifecycle. Which statuses these are depends on the job whose turn comes. What
follows on which status is told here once, and with it what a whole handle can show.

## Main definitions

* `World.published` — the statuses that a handle has shown, one after the other
* `Status.Precedes`, `Status.Trail` — the next status, and all that follow
* `Lifecycle.ending?`, `Job.ending?` — the result with which a turn ends a lifecycle
* `Job.Goes` — what a turn shows, how it ends and which job it leaves

## Main statements

* `Executor.published_beginAttempt`, `Executor.published_endAttempt` — attempts show nothing
* `World.perform_goes` — what the turn of any job shows
* `Job.Goes.chain` — the statuses of a turn follow on those before
* `Status.exists_trail` — whatever was shown can go on as it should
-/

namespace Resilience

/-! ## Attempts show nothing -/

namespace World

/-- The statuses that a handle has shown, one after the other. -/
def published (world : World) (handle : Nat) : List Status :=
  world.journal.toList.filterMap (·.occurrence.status? handle)

variable (world : World) (handle now : Nat)

theorem published_record (occurrence : Occurrence) :
    (world.record now occurrence).published handle =
      world.published handle ++ (occurrence.status? handle).toList := by
  rw [published, record, Array.toList_push, List.filterMap_append, published]
  cases status : occurrence.status? handle <;> simp [status]

theorem published_record_of_silent {occurrence : Occurrence}
    (silent : occurrence.status? handle = none) :
    (world.record now occurrence).published handle = world.published handle := by
  rw [published_record, silent]
  exact List.append_nil _

@[simp] theorem published_audit (event : AuditEvent) :
    (world.audit now event).published handle = world.published handle :=
  world.published_record_of_silent handle now rfl

@[simp] theorem published_setBreaker (id : Nat) (change : Breaker.Change) :
    (world.setBreaker now id change).published handle = world.published handle := by
  unfold setBreaker
  dsimp only
  split
  · rfl
  · exact published_audit _ handle now _

@[simp] theorem published_changeBreaker (id : Option Nat) (operation : Breaker → Breaker.Change) :
    (world.changeBreaker now id operation).published handle = world.published handle := by
  unfold changeBreaker
  split
  · rfl
  · split
    · rfl
    · exact world.published_setBreaker handle now _ _

@[simp] theorem published_acquire (id : Option Nat) :
    (world.acquire now id).2.published handle = world.published handle := by
  unfold acquire
  split
  · rfl
  · split
    · rfl
    · exact world.published_setBreaker handle now _ _

@[simp] theorem published_askCounter {α : Type} (request : Ledger → Served α) :
    (world.askCounter now request).2.published handle = world.published handle :=
  foldl_view (·.published handle) (fun world _ => world.published_audit handle now _) _ _

@[simp] theorem published_askSource {α : Type} (id : Nat) (kind : SourceRequest) (unit : WorkUnit)
    (request : Source → Except Failure α × Source) :
    (world.askSource now id kind unit request).2.published handle = world.published handle :=
  published_record_of_silent _ handle now rfl

@[simp] theorem published_compensate (compensation : Compensation) (setback : Setback) :
    (world.compensate now compensation setback).2.published handle = world.published handle := by
  rw [compensate_eq]
  refine foldl_view (·.published handle) (fun world note => ?_) _ _
  exact world.published_record_of_silent handle now (by cases note <;> rfl)

end World

namespace Executor

variable (executor : Executor) (unit : WorkUnit) (handle now : Nat) (world : World)

@[simp] theorem published_resetCount :
    (executor.resetCount unit now world).published handle = world.published handle :=
  world.published_askCounter handle now _

@[simp] theorem published_isStillPending :
    (executor.isStillPending unit now world).2.published handle = world.published handle := by
  unfold isStillPending
  split
  · rfl
  · dsimp only
    split <;> simp

@[simp] theorem published_abandon (attempts : Nat) (reason : String) :
    (executor.abandon unit attempts reason now world).2.published handle = world.published handle := by
  simp [abandon]

@[simp] theorem published_acknowledge :
    (executor.acknowledge unit now world).published handle = world.published handle := by
  unfold acknowledge
  split
  · rfl
  · exact world.published_askSource handle now _ _ _ _

@[simp] theorem published_invoke :
    (executor.invoke unit now world).2.published handle = world.published handle := by
  have admitted := world.published_acquire handle now executor.breaker
  unfold invoke
  dsimp only
  split
  · exact admitted
  · rw [World.published_record_of_silent _ _ _ rfl]
    exact admitted

/-- The first half of an attempt shows nothing. -/
@[simp] theorem published_beginAttempt (prior : Nat) :
    (executor.beginAttempt unit prior now world).2.published handle = world.published handle := by
  unfold beginAttempt
  split
  · exact executor.published_invoke unit handle now world
  · dsimp only
    split <;> simp

@[simp] theorem published_complete (attempts : Nat) :
    (executor.complete unit attempts now world).2.published handle = world.published handle := by
  simp [complete]

@[simp] theorem published_giveUp (setback : Setback) (attempts : Nat)
    (compensation : Option Compensation) :
    (executor.giveUp unit setback attempts compensation now world).2.published handle =
      world.published handle := by
  cases compensation with
  | none => simp [giveUp]
  | some compensation =>
    unfold giveUp
    dsimp only
    split <;> simp

@[simp] theorem published_countAttempt (prior : Nat) :
    (executor.countAttempt unit prior now world).2.published handle = world.published handle := by
  rw [countAttempt_eq]
  exact world.published_askCounter handle now _

@[simp] theorem published_handle (fault : Fault) (prior : Nat) :
    (executor.handle unit fault prior now world).2.published handle = world.published handle := by
  have counted := executor.published_countAttempt unit handle now
    (world.changeBreaker now executor.breaker (·.recordFault fault (Instant.ofMillis now))) prior
  rw [World.published_changeBreaker] at counted
  unfold Executor.handle
  dsimp only
  split
  · rw [World.published_audit]
    exact counted
  · rw [published_giveUp]
    exact counted

/-- The second half of an attempt shows nothing. -/
@[simp] theorem published_endAttempt (prior : Nat) (outcome : Except Fault Unit) :
    (executor.endAttempt unit prior outcome now world).2.published handle = world.published handle := by
  unfold endAttempt
  split
  · exact executor.published_complete unit handle now world (nextAttempt prior)
  · split <;> simp

variable {executor unit now world}

/-- The number of an attempt that is retried is not the greatest one. -/
theorem Closing.lt_of_retry {prior : Nat} {concluded : Except Fault Unit}
    {before after : World.Holdings} {occurrences : List Occurrence} {attempt : Nat}
    {delay : Duration}
    (closing : executor.Closing unit prior now concluded before (.retry attempt delay) occurrences
      after) : attempt < greatestAttempt := by
  cases closing with
  | retried entropy failed present numbered worthwhile =>
    exact (lt_of_isRetried worthwhile).trans_le executor.mostInvocations_le

theorem lt_of_retry {prior : Nat} {outcome : Except Fault Unit} {attempt : Nat} {delay : Duration}
    (again : (executor.endAttempt unit prior outcome now world).1 = .retry attempt delay) :
    attempt < greatestAttempt := by
  obtain ⟨_, closing, -⟩ := executor.closing_endAttempt unit prior now world outcome
  rw [again] at closing
  exact closing.lt_of_retry

end Executor

/-! ## Statuses that follow on each other -/

namespace World

theorem published_publish (world : World) (now other handle : Nat) (status : Status) :
    (world.publish now other status).published handle =
      world.published handle ++ if other = handle then [status] else [] := by
  rw [publish, published_record, Occurrence.status?]
  split <;> rfl

/-- Every handle shows the status that was published last. -/
def ShowsLast (world : World) : Prop :=
  ∀ handle, world.statuses.find? handle = (world.published handle).getLast?

theorem ShowsLast.of_same {world next : World} (showsLast : world.ShowsLast)
    (statuses : next.statuses = world.statuses)
    (published : ∀ handle, next.published handle = world.published handle) : next.ShowsLast := by
  intro handle
  rw [statuses, published]
  exact showsLast handle

theorem ShowsLast.publish {world : World} (showsLast : world.ShowsLast) (now handle : Nat)
    (status : Status) : (world.publish now handle status).ShowsLast := by
  intro other
  have inserted : (world.publish now handle status).statuses =
      world.statuses.insert handle status := rfl
  rw [published_publish, inserted]
  split
  · rename_i same
    rw [same, Table.find?_insert_self, List.getLast?_concat]
  · rename_i apart
    rw [Table.find?_insert_ne _ _ (Ne.symm apart), List.append_nil]
    exact showsLast other

/-- Whatever happens, handles show the status that was published last. -/
theorem ShowsLast.perform {world : World} (showsLast : world.ShowsLast) (deed : Deed) :
    (world.perform deed).ShowsLast := by
  cases deed with
  | begin executor unit prior now =>
    exact showsLast.of_same (executor.statuses_beginAttempt unit prior now world)
      fun handle => executor.published_beginAttempt unit handle now world prior
  | conclude executor unit prior outcome now =>
    exact showsLast.of_same (executor.statuses_endAttempt unit prior outcome now world)
      fun handle => executor.published_endAttempt unit handle now world prior outcome
  | publish now handle status => exact showsLast.publish now handle status
  | elapse | setScheduler | alter => exact showsLast.of_same rfl fun _ => rfl

theorem ShowsLast.performAll {world : World} (showsLast : world.ShowsLast) (deeds : List Deed) :
    (world.performAll deeds).ShowsLast := by
  induction deeds generalizing world with
  | nil => exact showsLast
  | cons deed deeds ih => exact ih (showsLast.perform deed)

end World

namespace Status

/-- A status and one that can follow on it, when all attempts are made in the background. -/
inductive Precedes : Status → Status → Prop
  | submitted : Precedes pending (inProgress 1)
  | failed (number attempt : Nat) (delay : Duration) :
    Precedes (inProgress number) (retryScheduled attempt delay)
  | retried (attempt : Nat) (delay : Duration) :
    Precedes (retryScheduled attempt delay) (inProgress (attempt + 1))
  | ended (number : Nat) (result : Except Failure Completion) :
    Precedes (inProgress number) (ofResult result)
  | refused (attempt : Nat) (delay : Duration) :
    Precedes (retryScheduled attempt delay) (.failed .schedulerShutDown)

/-- All that follows on the status of an attempt that has begun: any number of retries, each with
the attempt that is made then, and in the end a result, or the shutdown of the scheduler that was to
run the next attempt. -/
inductive Trail : List Status → Prop
  | ended (result : Except Failure Completion) : Trail [ofResult result]
  | refused (attempt : Nat) (delay : Duration) :
    Trail [retryScheduled attempt delay, .failed .schedulerShutDown]
  | retried (attempt : Nat) (delay : Duration) {rest : List Status} (goesOn : Trail rest) :
    Trail (retryScheduled attempt delay :: inProgress (attempt + 1) :: rest)

theorem isTerminal_ofResult (result : Except Failure Completion) :
    (ofResult result).isTerminal = true :=
  (isTerminal_iff_result? _).2 ⟨result, result?_ofResult result⟩

/-- Nothing follows on a terminal status. -/
theorem Precedes.unfinished {status next : Status} (precedes : Precedes status next) :
    status.isTerminal = false := by
  cases precedes <;> rfl

/-- Statuses that follow on each other can go on as they should, up to an end. -/
theorem exists_trail {number : Nat} :
    ∀ {statuses : List Status}, (inProgress number :: statuses).IsChain Precedes →
      ∃ trail, Trail trail ∧ statuses <+: trail
  | [], _ => ⟨_, .ended (.error .schedulerShutDown), List.nil_prefix⟩
  | [_], chain => by
    obtain ⟨first, -⟩ := List.isChain_cons_cons.1 chain
    cases first with
    | ended _ result => exact ⟨_, .ended result, List.prefix_rfl⟩
    | failed _ attempt delay =>
      exact ⟨_, .refused attempt delay, _, rfl⟩
  | _ :: _ :: rest, chain => by
    obtain ⟨first, chain⟩ := List.isChain_cons_cons.1 chain
    obtain ⟨second, later⟩ := List.isChain_cons_cons.1 chain
    cases first with
    | ended _ result =>
      -- nothing comes after a result
      have unfinished := second.unfinished
      rw [isTerminal_ofResult] at unfinished
      cases unfinished
    | failed _ attempt delay =>
      cases second with
      | retried =>
        obtain ⟨trail, goesOn, shown⟩ := exists_trail later
        exact ⟨_, .retried attempt delay goesOn, by simpa using shown⟩
      | refused =>
        cases rest with
        | nil => exact ⟨_, .refused attempt delay, List.prefix_rfl⟩
        | cons third others => cases (List.isChain_cons_cons.1 later).1.unfinished

end Status

/-! ## Turns -/

/-- A status that tells of the job that comes next. -/
inductive Status.Announces : Status → Job → Prop
  | submitted (lifecycle : Lifecycle) : Announces .pending (.attempt lifecycle 0)
  | scheduled (lifecycle : Lifecycle) {attempt : Nat} (delay : Duration)
      (small : attempt < Executor.greatestAttempt) :
    Announces (.retryScheduled attempt delay) (.attempt lifecycle attempt)
  | begun (number : Nat) (lifecycle : Lifecycle) (prior : Nat) (outcome : Except Fault Unit) :
    Announces (.inProgress number) (.conclude lifecycle prior outcome)

/-- A lifecycle with a job that comes next has not ended. -/
theorem Status.Announces.unfinished {status : Status} {job : Job}
    (announces : status.Announces job) : status.isTerminal = false := by
  cases announces <;> rfl

/-- The result with which a lifecycle ends once an attempt has come to something: what the attempt
has come to, or the shutdown of the scheduler that was to run the next attempt. -/
def Lifecycle.ending? (lifecycle : Lifecycle) (half : Sequel × World) :
    Option (Except Failure Completion) :=
  match half.1 with
  | .done result => some result
  | .retry .. =>
    if (half.2.scheduler lifecycle.executor.scheduler).isShutDown then
      some (.error .schedulerShutDown)
    else none

/-- The result with which the turn of a job ends its lifecycle, if it does. -/
def Job.ending? (now : Nat) (world : World) : Job → Option (Except Failure Completion)
  | attempt lifecycle prior =>
    let world := world.publish now lifecycle.handle (.inProgress (Executor.nextAttempt prior))
    let (begun, world) := lifecycle.executor.beginAttempt lifecycle.unit prior now world
    match begun with
    | .ended result => some result
    | .running response =>
      if response.latency = .zero then
        lifecycle.ending?
          (lifecycle.executor.endAttempt lifecycle.unit prior response.outcome now world)
      else none
  | conclude lifecycle prior outcome =>
    lifecycle.ending? (lifecycle.executor.endAttempt lifecycle.unit prior outcome now world)

/-- What follows when an invocation has returned: with the result of the lifecycle, if it ends, the
statuses that are shown and the job that comes next. -/
inductive Lifecycle.Follows (lifecycle : Lifecycle) (answer : Except Fault Unit) :
    Option (Except Failure Completion) → List Status → Option Job → Prop
  | ended {result : Except Failure Completion}
      (told : Told lifecycle.unit [.returned answer] result) :
    Follows lifecycle answer (some result) [.ofResult result] none
  | refused (attempt : Nat) (delay : Duration) :
    Follows lifecycle answer (some (.error .schedulerShutDown))
      [.retryScheduled attempt delay, .failed .schedulerShutDown] none
  | retried {attempt : Nat} (delay : Duration) (small : attempt < Executor.greatestAttempt) :
    Follows lifecycle answer none [.retryScheduled attempt delay]
      (some (.attempt lifecycle attempt))

/-- What the turn of a job comes to: the dealings with the operation, with the result of its
lifecycle, if it ends, the statuses that are shown and the job that comes next. -/
inductive Job.Goes : Job → List Dealing → Option (Except Failure Completion) → List Status →
    Option Job → Prop
  | begun (lifecycle : Lifecycle) (prior : Nat) (outcome : Except Fault Unit) :
    Goes (.attempt lifecycle prior) [.invoked outcome] none
      [.inProgress (Executor.nextAttempt prior)] (some (.conclude lifecycle prior outcome))
  /-- The attempt ends before its invocation. -/
  | refrained {lifecycle : Lifecycle} (prior : Nat) {result : Except Failure Completion}
      (told : Told lifecycle.unit [] result) :
    Goes (.attempt lifecycle prior) [] (some result)
      [.inProgress (Executor.nextAttempt prior), .ofResult result] none
  /-- The invocation returns in the turn in which it begins. -/
  | atOnce {lifecycle : Lifecycle} (prior : Nat) (outcome : Except Fault Unit)
      (operation : Operation) {result : Option (Except Failure Completion)}
      {statuses : List Status} {next : Option Job}
      (follows : lifecycle.Follows (operation.conclude lifecycle.unit outcome) result statuses
        next) :
    Goes (.attempt lifecycle prior)
      [.invoked outcome, .returned (operation.conclude lifecycle.unit outcome)] result
      (.inProgress (Executor.nextAttempt prior) :: statuses) next
  | concluded {lifecycle : Lifecycle} (prior : Nat) (outcome : Except Fault Unit)
      (operation : Operation) {result : Option (Except Failure Completion)}
      {statuses : List Status} {next : Option Job}
      (follows : lifecycle.Follows (operation.conclude lifecycle.unit outcome) result statuses
        next) :
    Goes (.conclude lifecycle prior outcome)
      [.returned (operation.conclude lifecycle.unit outcome)] result statuses next

/-- A status that tells what a turn has come to: the job that comes next, or the result. -/
inductive Status.Tells (lifecycle : Lifecycle) :
    Status → Option (Except Failure Completion) → Option Job → Prop
  | next {status : Status} {job : Job} (about : job.lifecycle = lifecycle)
      (announces : status.Announces job) : Tells lifecycle status none (some job)
  | ended (result : Except Failure Completion) : Tells lifecycle (.ofResult result) (some result) none

/-- The job that comes next is one of the same lifecycle. -/
theorem Status.Tells.about {lifecycle : Lifecycle} {status : Status}
    {result : Option (Except Failure Completion)} {next : Option Job}
    (tells : status.Tells lifecycle result next) : ∀ job ∈ next, job.lifecycle = lifecycle := by
  intro job member
  cases tells with
  | next about announces =>
    cases member
    exact about
  | ended result => cases member

namespace Lifecycle.Follows

variable {lifecycle : Lifecycle} {answer : Except Fault Unit}
  {result : Option (Except Failure Completion)} {statuses : List Status} {next : Option Job}

theorem chain (follows : lifecycle.Follows answer result statuses next) (number : Nat) :
    (Status.inProgress number :: statuses).IsChain Status.Precedes := by
  cases follows with
  | ended => exact .cons_cons (.ended number _) (.singleton _)
  | refused attempt delay =>
    exact .cons_cons (.failed number attempt delay) (.cons_cons (.refused attempt delay) (.singleton _))
  | retried delay small => exact .cons_cons (.failed number _ delay) (.singleton _)

/-- The last status tells what has come of it. -/
theorem last (follows : lifecycle.Follows answer result statuses next) :
    ∃ status ∈ statuses.getLast?, status.Tells lifecycle result next := by
  cases follows with
  | ended => exact ⟨_, rfl, .ended _⟩
  | refused => exact ⟨_, rfl, .ended (.error .schedulerShutDown)⟩
  | retried delay small => exact ⟨_, rfl, .next rfl (.scheduled lifecycle delay small)⟩

/-- The terminal status is that of the result. -/
theorem terminals (follows : lifecycle.Follows answer result statuses next) :
    statuses.filter (·.isTerminal) = result.toList.map .ofResult := by
  cases follows with
  | ended =>
    rw [List.filter_singleton, Status.isTerminal_ofResult]
    rfl
  | refused | retried => rfl

end Lifecycle.Follows

namespace Job.Goes

variable {job : Job} {dealings : List Dealing} {result : Option (Except Failure Completion)}
  {statuses : List Status} {next : Option Job}

/-- The statuses of a turn follow on the one that has announced it. -/
theorem chain (goes : job.Goes dealings result statuses next) {status : Status}
    (announces : status.Announces job) : (status :: statuses).IsChain Status.Precedes := by
  -- the number of the attempt that begins is the announced one
  have begins {lifecycle : Lifecycle} {prior : Nat}
      (announces : status.Announces (.attempt lifecycle prior)) :
      status.Precedes (.inProgress (Executor.nextAttempt prior)) := by
    cases announces with
    | submitted => exact .submitted
    | scheduled _ delay small =>
      rw [Executor.nextAttempt, Nat.min_eq_left small]
      exact .retried prior delay
  cases goes with
  | begun => exact .cons_cons (begins announces) (.singleton _)
  | refrained => exact .cons_cons (begins announces) (.cons_cons (.ended _ _) (.singleton _))
  | atOnce prior outcome operation follows => exact .cons_cons (begins announces) (follows.chain _)
  | concluded prior outcome operation follows =>
    cases announces
    exact follows.chain _

theorem last (goes : job.Goes dealings result statuses next) :
    ∃ status ∈ statuses.getLast?, status.Tells job.lifecycle result next := by
  cases goes with
  | begun lifecycle prior outcome =>
    exact ⟨_, rfl, .next rfl (.begun _ lifecycle prior outcome)⟩
  | refrained => exact ⟨_, rfl, .ended _⟩
  | atOnce prior outcome operation follows =>
    obtain ⟨status, last, tells⟩ := follows.last
    refine ⟨status, ?_, tells⟩
    rw [List.getLast?_cons, Option.mem_def.1 last]
    rfl
  | concluded prior outcome operation follows => exact follows.last

theorem terminals (goes : job.Goes dealings result statuses next) :
    statuses.filter (·.isTerminal) = result.toList.map .ofResult := by
  cases goes with
  | begun => rfl
  | refrained told =>
    rw [List.filter_cons_of_neg Bool.false_ne_true, List.filter_singleton,
      Status.isTerminal_ofResult]
    rfl
  | atOnce prior outcome operation follows => exact follows.terminals
  | concluded prior outcome operation follows => exact follows.terminals

end Job.Goes

namespace Lifecycle

variable {lifecycle : Lifecycle} {run middle next : Universe}

/-- A run comes from another one by statuses on the handle of a lifecycle and a job that comes
next. -/
structure Publishes (lifecycle : Lifecycle) (run next : Universe) (statuses : List Status)
    (job : Option Job) : Prop where
  published : ∀ handle, next.state.published handle =
    run.state.published handle ++ if lifecycle.handle = handle then statuses else []
  agenda : ∃ item : Option (Appointment Job), item.map (·.body) = job ∧
    next.loop.agenda = ↑item.toList + run.loop.agenda

theorem publishes_status (status : Status) (run : Universe) :
    lifecycle.Publishes run (lifecycle.publish status run) [status] none where
  published handle := run.state.published_publish run.loop.now lifecycle.handle handle status
  agenda := ⟨none, rfl, (Multiset.zero_add _).symm⟩

/-- Nothing is shown where the world changes otherwise. -/
theorem publishes_nothing (run : Universe) (world : World)
    (same : ∀ handle, world.published handle = run.state.published handle) :
    lifecycle.Publishes run { run with state := world } [] none where
  published handle := by
    rw [ite_self, List.append_nil]
    exact same handle
  agenda := ⟨none, rfl, (Multiset.zero_add _).symm⟩

theorem Publishes.trans {early late : List Status} {job : Option Job}
    (first : lifecycle.Publishes run middle early none)
    (second : lifecycle.Publishes middle next late job) :
    lifecycle.Publishes run next (early ++ late) job where
  published handle := by
    rw [second.published, first.published, List.append_assoc]
    split <;> rfl
  agenda := by
    obtain ⟨nothing, same, before⟩ := first.agenda
    obtain ⟨item, next, after⟩ := second.agenda
    rw [Option.map_eq_none_iff.1 same] at before
    exact ⟨item, next, after.trans (congrArg _ (before.trans (Multiset.zero_add _)))⟩

/-- The next attempt is scheduled, or refused by a scheduler that was shut down. -/
theorem postpone_goes (answer : Except Fault Unit) {attempt : Nat}
    (small : attempt < Executor.greatestAttempt) (delay : Duration) (run : Universe) :
    ∃ rest job,
      lifecycle.Follows answer (lifecycle.ending? (.retry attempt delay, run.state))
        (.retryScheduled attempt delay :: rest) job ∧
      lifecycle.Publishes run (lifecycle.postpone attempt delay run)
        (.retryScheduled attempt delay :: rest) job := by
  have scheduled := @publishes_status lifecycle (.retryScheduled attempt delay) run
  cases shut : (run.state.scheduler lifecycle.executor.scheduler).isShutDown with
  | true =>
    have result : lifecycle.ending? (.retry attempt delay, run.state) =
        some (.error .schedulerShutDown) := if_pos shut
    rw [result, postpone_of_shut shut]
    exact ⟨_, none, .refused attempt delay, scheduled.trans (publishes_status _ _)⟩
  | false =>
    have result : lifecycle.ending? (.retry attempt delay, run.state) = none :=
      if_neg (by rw [shut]; exact Bool.false_ne_true)
    rw [result, postpone_of_open shut]
    exact ⟨[], _, .retried delay small, scheduled.published,
      ⟨some _, rfl, EventLoop.agenda_spawn _ _⟩⟩

theorem conclude_goes (prior : Nat) (outcome : Except Fault Unit) (run : Universe) :
    ∃ statuses job,
      lifecycle.Follows (lifecycle.executor.answer lifecycle.unit outcome run.state)
        (lifecycle.ending? (lifecycle.executor.endAttempt lifecycle.unit prior outcome
          run.loop.now run.state)) statuses job ∧
        lifecycle.Publishes run (lifecycle.conclude prior outcome run) statuses job := by
  have silent := fun handle => lifecycle.executor.published_endAttempt lifecycle.unit handle
    run.loop.now run.state prior outcome
  have small := fun attempt delay => @Executor.lt_of_retry lifecycle.executor lifecycle.unit
    run.loop.now run.state prior outcome attempt delay
  have told := fun result => @Executor.told_of_done lifecycle.executor lifecycle.unit prior
    run.loop.now run.state result outcome
  rw [conclude]
  generalize lifecycle.executor.endAttempt lifecycle.unit prior outcome run.loop.now run.state =
    half at silent small told ⊢
  obtain ⟨result | ⟨attempt, delay⟩, world⟩ := half
  · exact ⟨_, none, .ended (told result rfl),
      (publishes_nothing run world silent).trans (publishes_status _ _)⟩
  · obtain ⟨rest, job, follows, publishes⟩ := @postpone_goes lifecycle
      (lifecycle.executor.answer lifecycle.unit outcome run.state) attempt
      (small attempt delay rfl) delay { run with state := world }
    exact ⟨_, job, follows, (publishes_nothing run world silent).trans publishes⟩

theorem attempt_goes (prior : Nat) (run : Universe) :
    ∃ statuses job,
      (Job.attempt lifecycle prior).Goes
        ((Job.attempt lifecycle prior).dealings run.loop.now run.state)
        ((Job.attempt lifecycle prior).ending? run.loop.now run.state) statuses job ∧
        lifecycle.Publishes run (lifecycle.attempt prior run) statuses job := by
  have entered := @publishes_status lifecycle (.inProgress (Executor.nextAttempt prior)) run
  have silent := fun handle => lifecycle.executor.published_beginAttempt lifecycle.unit handle
    run.loop.now (run.state.publish run.loop.now lifecycle.handle
      (.inProgress (Executor.nextAttempt prior))) prior
  have told := fun result => @Executor.told_of_begun lifecycle.executor lifecycle.unit prior
    run.loop.now (run.state.publish run.loop.now lifecycle.handle
      (.inProgress (Executor.nextAttempt prior))) [] result
  simp only [attempt, Job.ending?, Job.dealings]
  simp only [publish, Run.mapState] at entered ⊢
  generalize lifecycle.executor.beginAttempt lifecycle.unit prior run.loop.now _ = half
    at silent told ⊢
  -- the attempt ends without an invocation, or its operation is under way
  obtain ⟨result | response, world⟩ := half
  · exact ⟨_, none, .refrained prior (told result rfl),
      entered.trans ((publishes_nothing _ world silent).trans (publishes_status _ _))⟩
  · have begun := entered.trans (publishes_nothing _ world silent)
    dsimp only at begun ⊢
    split
    · obtain ⟨statuses, job, follows, publishes⟩ :=
        @conclude_goes lifecycle prior response.outcome { run with state := world }
      exact ⟨_, job, .atOnce prior response.outcome _ follows, begun.trans publishes⟩
    · refine ⟨_, _, .begun lifecycle prior response.outcome, begun.published, ?_⟩
      exact ⟨some _, rfl, EventLoop.agenda_sleep _ _ _⟩

end Lifecycle

/-- What the turn of any job comes to. -/
theorem World.perform_goes (owner : Option Nat) (delay : Duration) (body : Job) (run : Universe) :
    ∃ statuses next,
      body.Goes (body.dealings run.loop.now run.state) (body.ending? run.loop.now run.state)
          statuses next ∧
        body.lifecycle.Publishes run (reactor.perform ⟨owner, delay, body⟩ run) statuses next := by
  cases body with
  | attempt lifecycle prior => exact Lifecycle.attempt_goes prior run
  | conclude lifecycle prior outcome =>
    obtain ⟨statuses, next, follows, publishes⟩ := Lifecycle.conclude_goes prior outcome run
    exact ⟨statuses, next, .concluded prior outcome _ follows, publishes⟩

end Resilience
