import Resilience.Proofs.Executor.Scene

/-!
# Endings

However a lifecycle ends, its part of the journal tells how: some retries, and then what belongs to
the ending — nothing, or that the unit was given up and what its compensation did, or that the unit
was abandoned. The source learns of a completion and of nothing else, and every attempt that began
was either invoked or the last one. A lifecycle that a shutdown cuts off comes to no ending: its
handle stays as it was, and its retries and invocations are all that the journal tells.

## Main definitions

* `Account`, `account` — the events, actions, acknowledgements and invocations in some occurrences
* `Ending` — what belongs to the ending of a lifecycle
* `Phase.Lawful` — what each step of a lifecycle keeps
* `Scene.Reaches` — a result that a lifecycle has come to
* `Scene.Gives` — a result that a scene gives to whoever waits for it

## Main statements

* `Story.keeps` — what each step keeps holds throughout a story
* `Story.accounts` — the account of a lifecycle in every phase
* `Scene.one_ending` — a lifecycle has one ending, and the journal tells it
* `Scene.account_of_cutOff` — what the journal tells of a lifecycle that was cut off
-/

namespace Resilience

/-! ## Accounts -/

namespace Occurrence

/-- The event that is reported, if any. -/
def event? : Occurrence → Option AuditEvent
  | audited event => some event
  | invoked .. | asked .. | compensated .. | published .. => none

/-- The action of a compensation that ran, if any. -/
def action? : Occurrence → Option Compensation
  | compensated action _ => some action
  | audited _ | invoked .. | asked .. | published .. => none

/-- Whether a source is asked to acknowledge a unit. -/
def isThanks : Occurrence → Bool
  | asked _ .acknowledge _ => true
  | _ => false

def isInvocation : Occurrence → Bool
  | invoked .. => true
  | _ => false

end Occurrence

/-- What has happened about a unit. -/
@[ext]
structure Account where
  events : List AuditEvent := []
  actions : List Compensation := []
  thanks : Nat := 0
  invocations : Nat := 0

/-- The account of some occurrences. -/
def account (occurrences : List Occurrence) : Account where
  events := occurrences.filterMap (·.event?)
  actions := occurrences.filterMap (·.action?)
  thanks := occurrences.countP (·.isThanks)
  invocations := occurrences.countP (·.isInvocation)

/-- The account of what happens afterwards is added. -/
def Account.plus (first second : Account) : Account where
  events := first.events ++ second.events
  actions := first.actions ++ second.actions
  thanks := first.thanks + second.thanks
  invocations := first.invocations + second.invocations

theorem account_append (first second : List Occurrence) :
    account (first ++ second) = (account first).plus (account second) := by
  simp [account, Account.plus]

namespace Executor

variable {executor : Executor} {unit : WorkUnit} {prior now : Nat} {world : World}

theorem account_check : account (executor.check unit prior) = {} := by
  rw [check]
  split
  · rfl
  · split <;> rfl

theorem account_thanks :
    account (executor.thanks unit) =
      { thanks := if executor.source.isSome then 1 else 0 } := by
  rw [thanks]
  split <;> simp_all [account, Occurrence.event?, Occurrence.action?, Occurrence.isThanks,
    Occurrence.isInvocation]

end Executor

/-- The part of a composite that failed, if a note tells of one. -/
def CompensationNote.failure? : CompensationNote → Option (String × Failure)
  | ran .. => none
  | partFailed name _ failure => some (name, failure)

/-- The events of a compensation that failed for an attempt, as a whole or in parts. -/
def failureEvents (setback : Setback) (failures : List (String × Failure)) : List AuditEvent :=
  failures.map fun failure => .compensationFailed setback failure.1 failure.2

theorem account_notes {setback : Setback} {notes : List CompensationNote}
    (about : ∀ note ∈ notes, note.setback = setback) :
    account (notes.map (·.occurrence)) =
      { events := failureEvents setback (notes.filterMap (·.failure?))
        actions := notes.filterMap (·.action?) } := by
  induction notes with
  | nil => rfl
  | cons note notes ih =>
    have rest := ih fun other member => about other (List.mem_cons_of_mem _ member)
    rw [List.map_cons, ← List.singleton_append, account_append, rest]
    cases note with
    | ran action noted => rfl
    | partFailed name noted failure =>
      cases about (.partFailed name noted failure) List.mem_cons_self
      rfl

/-- The account of a unit that is given up. -/
theorem account_givenUp (unit : WorkUnit) (setback : Setback) (attempts : Nat)
    (sources : Table Nat Source) (compensation : Option Compensation) :
    ∃ failures,
      account (Executor.givenUp unit setback attempts sources compensation).2 =
        { events := failureEvents setback failures
          actions := (compensation.map (·.leaves)).getD [] } := by
  cases compensation with
  | none => exact ⟨[], rfl⟩
  | some compensation =>
    have notes := account_notes
      (Compensation.setback_of_mem_notes setback compensation sources)
    rw [Compensation.actions_run] at notes
    generalize (compensation.run setback sources).notes.filterMap (·.failure?) = failures at notes
    dsimp only [Executor.givenUp]
    split
    · exact ⟨failures, notes⟩
    · exact ⟨failures, notes⟩
    · rename_i failure _
      refine ⟨failures ++ [(compensation.name, failure)], ?_⟩
      rw [account_append, notes]
      simp [account, Account.plus, failureEvents, Occurrence.event?, Occurrence.action?,
        Occurrence.isThanks, Occurrence.isInvocation]

/-! ## Endings -/

/-- What belongs to the ending of a lifecycle with some result: the last events, the actions of
compensations, the acknowledgements, and whether the last attempt was invoked. -/
inductive Ending (executor : Executor) (unit : WorkUnit) :
    Except Failure Completion → List AuditEvent → List Compensation → Nat → Bool → Prop
  | completed (attempts : Nat) :
    Ending executor unit (.ok (.completed attempts)) [] []
      (if executor.source.isSome then 1 else 0) true
  | denied {failure : Failure} (refused : failure.isDenied = true) :
    Ending executor unit (.error failure) [] [] 0 false
  /-- The attempt could not be scheduled. -/
  | unscheduled : Ending executor unit (.error .schedulerShutDown) [] [] 0 false
  /-- The unit had left its source before the attempt. -/
  | gone (attempts : Nat) :
    Ending executor unit (.ok (.abandoned attempts))
      [.unitAbandoned unit attempts "unit left its source"] [] 0 false
  /-- The operation did not find the unit. -/
  | vanished (attempts : Nat) :
    Ending executor unit (.ok (.abandoned attempts))
      [.unitAbandoned unit attempts "unit not found"] [] 0 true
  | gaveUp {attempts : Nat} (setback : Setback) (failures : List (String × Failure))
      (about : setback.unit = unit) :
    Ending executor unit
      (if executor.recovers setback then .ok (.recovered attempts)
        else .error (.exhausted unit.action attempts setback.fault))
      (.gaveUp setback (executor.handler.compensation.map (·.name)) ::
        failureEvents setback failures)
      ((executor.handler.compensation.map (·.leaves)).getD []) 0 true

/-- The events of retries that were scheduled. -/
def retryEvents (retries : List (Setback × Duration)) : List AuditEvent :=
  retries.map fun retry => .retryScheduled retry.1 retry.2

/-- The account of a lifecycle in a phase. -/
def Phase.Accounts (executor : Executor) (unit : WorkUnit) (account : Account) : Phase → Prop
  | absent => account = {}
  | waiting .. =>
    ∃ retries, account = { events := retryEvents retries, invocations := retries.length }
  | running .. | calling _ =>
    ∃ retries, account = { events := retryEvents retries, invocations := retries.length + 1 }
  | ended result =>
    ∃ retries last actions thanks, ∃ invoked : Bool,
      Ending executor unit result last actions thanks invoked ∧ account =
        { events := retryEvents retries ++ last
          actions
          thanks
          invocations := retries.length + if invoked then 1 else 0 }
  | cutOff invoked =>
    ∃ retries, account =
      { events := retryEvents retries
        invocations := retries.length + if invoked then 1 else 0 }

/-- The account of some units in a world. -/
def World.account (world : World) (mine : WorkUnit → Bool) : Account :=
  Resilience.account ((world.tale mine).map (·.occurrence))

theorem World.account_of_tale {world next : World} {mine : WorkUnit → Bool} {now : Nat}
    {occurrences : List Occurrence}
    (tale : next.tale mine =
      world.tale mine ++ occurrences.map fun occurrence => ⟨now, occurrence⟩) :
    next.account mine = (world.account mine).plus (Resilience.account occurrences) := by
  rw [World.account, tale, List.map_append, account_append, List.map_map]
  congr 2
  exact List.map_id _

/-- What happens aside adds nothing to the account. -/
theorem Deed.Aside.account {surroundings : Surroundings} {deed : Deed}
    (aside : deed.Aside surroundings) (world : World) :
    (world.perform deed).account surroundings.mine = world.account surroundings.mine := by
  rw [World.account, aside.tale, World.account]

/-! ## Laws of lifecycles -/

/-- What is kept by a lifecycle: the ledger and the account fit the phase, after each step of a
story if they did before it. -/
structure Phase.Lawful (surroundings : Surroundings) (executor : Executor) (unit : WorkUnit)
    (fits : Ledger → Account → Phase → Prop) : Prop where
  aside {phase : Phase} {world : World} {deed : Deed} {told : Account} :
    deed.Aside surroundings → fits world.ledger told phase →
      fits (world.perform deed).ledger told phase
  submitted {ledger : Ledger} {told : Account} (now : Nat) :
    fits ledger told absent → fits ledger told (waiting 0 now)
  begun {prior now : Nat} {world : World} {told : Account} {begun : Begun}
    {occurrences : List Occurrence} {after : World.Holdings} :
    fits world.ledger told (waiting prior now) →
      executor.Opening unit prior now world begun occurrences after →
        fits after.ledger (told.plus (account occurrences)) (ofBegun prior now begun)
  concluded {prior now : Nat} {outcome concluded : Except Fault Unit} {told : Account}
    {before after : World.Holdings} {sequel : Sequel} {occurrences : List Occurrence} :
    fits before.ledger told (running prior outcome now) →
      executor.Closing unit prior now concluded before sequel occurrences after →
        fits after.ledger (told.plus (account occurrences)) (ofSequel now sequel)
  /-- In the foreground a call that is under way is all that differs. -/
  entered {now : Nat} {ledger : Ledger} {told : Account} {begun : Begun} :
    fits ledger told (ofBegun 0 now begun) → fits ledger told (ofEntered begun)
  left {now : Nat} {outcome concluded : Except Fault Unit} {told : Account}
    {before after : World.Holdings} {sequel : Sequel} {occurrences : List Occurrence} :
    fits before.ledger told (calling outcome) →
      executor.Closing unit 0 now concluded before sequel occurrences after →
        fits after.ledger (told.plus (account occurrences)) (ofSequel now sequel)
  refused {ledger : Ledger} {told : Account} (prior due : Nat) :
    fits ledger told (waiting prior due) → fits ledger told (ended (.error .schedulerShutDown))
  cutWaiting {ledger : Ledger} {told : Account} (prior due : Nat) :
    fits ledger told (waiting prior due) → fits ledger told (cutOff false)
  cutRunning {ledger : Ledger} {told : Account} (prior : Nat) (outcome : Except Fault Unit)
    (due : Nat) : fits ledger told (running prior outcome due) → fits ledger told (cutOff true)

variable {executor : Executor} {unit : WorkUnit} {mine : WorkUnit → Bool}

/-- What each step keeps holds throughout the story of a lifecycle. -/
theorem Story.keeps {surroundings : Surroundings} {fits : Ledger → Account → Phase → Prop}
    (lawful : Phase.Lawful surroundings executor unit fits) (own : surroundings.mine unit = true)
    {before after : Phase × World} (story : Story surroundings executor unit before after)
    (first : fits before.2.ledger (before.2.account surroundings.mine) before.1) :
    fits after.2.ledger (after.2.account surroundings.mine) after.1 := by
  induction story with
  | refl => exact first
  | tail _ step ih =>
    cases step with
    | aside deed aside =>
      dsimp only
      rw [aside.account]
      exact lawful.aside aside ih
    | submitted now => exact lawful.submitted now ih
    | begun prior now =>
      obtain ⟨occurrences, opening, tale⟩ := Executor.tale_beginAttempt_of_mine own
      dsimp only
      rw [World.account_of_tale tale]
      exact lawful.begun ih opening
    | concluded prior now outcome =>
      obtain ⟨occurrences, closing, tale⟩ := Executor.tale_endAttempt_of_mine own outcome
      dsimp only
      rw [World.account_of_tale tale]
      exact lawful.concluded ih closing
    | entered now =>
      -- as if the unit had been submitted and its turn had come at once
      obtain ⟨occurrences, opening, tale⟩ := Executor.tale_beginAttempt_of_mine own
      dsimp only
      rw [World.account_of_tale tale]
      exact lawful.entered (lawful.begun (lawful.submitted now ih) opening)
    | left now outcome =>
      obtain ⟨occurrences, closing, tale⟩ := Executor.tale_endAttempt_of_mine own outcome
      dsimp only
      rw [World.account_of_tale tale]
      exact lawful.left ih closing
    | refused prior due => exact lawful.refused prior due ih
    | cutWaiting prior due => exact lawful.cutWaiting prior due ih
    | cutRunning prior outcome due => exact lawful.cutRunning prior outcome due ih

/-! ## Accounts of lifecycles -/

/-- What the first half of an attempt adds to the account. -/
theorem Phase.Accounts.begun {prior due now : Nat} {world : World} {before : Account}
    {begun : Begun} {occurrences : List Occurrence} {after : World.Holdings}
    (accounts : (Phase.waiting prior due).Accounts executor unit before)
    (opening : executor.Opening unit prior now world begun occurrences after) :
    (Phase.ofBegun prior now begun).Accounts executor unit
      (before.plus (account occurrences)) := by
  obtain ⟨retries, rfl⟩ := accounts
  cases opening with
  | denied refused =>
    refine ⟨retries, [], [], 0, false, .denied refused, ?_⟩
    rw [Executor.account_check]
    simp [Account.plus]
  | invoked pending call =>
    refine ⟨retries, ?_⟩
    rw [account_append, Executor.account_check]
    simp [Account.plus, account, Occurrence.event?, Occurrence.action?, Occurrence.isThanks,
      Occurrence.isInvocation]
  | gone retried attached notPending =>
    exact ⟨retries, _, [], 0, false, .gone prior, rfl⟩

/-- In the foreground the account is the same. -/
theorem Phase.Accounts.entered {prior now : Nat} {begun : Begun} {account : Account}
    (accounts : (ofBegun prior now begun).Accounts executor unit account) :
    (ofEntered begun).Accounts executor unit account := by
  cases begun <;> exact accounts

/-- What the second half of an attempt adds to the account. -/
theorem Phase.Accounts.concluded {prior now : Nat} {outcome : Except Fault Unit} {due : Nat}
    {before : Account} {concluded : Except Fault Unit} {held after : World.Holdings}
    {sequel : Sequel} {occurrences : List Occurrence}
    (accounts : (Phase.running prior outcome due).Accounts executor unit before)
    (closing : executor.Closing unit prior now concluded held sequel occurrences after) :
    (Phase.ofSequel now sequel).Accounts executor unit (before.plus (account occurrences)) := by
  obtain ⟨retries, rfl⟩ := accounts
  cases closing with
  | completed succeeded =>
    refine ⟨retries, [], [], _, true, .completed _, ?_⟩
    rw [Executor.account_thanks]
    simp [Account.plus]
  | vanished failed retried notFound =>
    exact ⟨retries, _, [], 0, true, .vanished _, rfl⟩
  | retried entropy failed present numbered worthwhile =>
    rename_i fault attempt
    refine ⟨retries ++ [(executor.setback unit now fault attempt,
      (executor.handler.policy.delay (max attempt 1) entropy).1)], ?_⟩
    simp [Account.plus, account, retryEvents, Occurrence.event?, Occurrence.action?,
      Occurrence.isThanks, Occurrence.isInvocation]
  | gaveUp sources failed present numbered spent =>
    rename_i fault attempt
    obtain ⟨failures, given⟩ := account_givenUp unit (executor.setback unit now fault attempt)
      attempt sources executor.handler.compensation
    -- the event of giving up comes first, and then what the compensation tells
    rw [Executor.result_givenUp, ← List.singleton_append, account_append, given]
    refine ⟨retries, _, _, 0, true, .gaveUp (executor.setback unit now fault attempt) failures rfl, ?_⟩
    simp [Account.plus, account, Occurrence.event?, Occurrence.action?, Occurrence.isThanks,
      Occurrence.isInvocation]

/-- The account of a lifecycle tells its phase, whatever the ledger. -/
theorem Phase.lawful_accounts (surroundings : Surroundings) :
    Phase.Lawful surroundings executor unit fun _ told phase =>
      phase.Accounts executor unit told where
  aside _ accounts := accounts
  submitted _ accounts := ⟨[], accounts⟩
  begun accounts opening := accounts.begun opening
  concluded accounts closing := accounts.concluded closing
  entered accounts := accounts.entered
  left {now outcome _ told _ _ _ _} accounts closing :=
    have running : (running 0 outcome now).Accounts executor unit told := accounts
    running.concluded closing
  refused prior due := fun ⟨retries, same⟩ =>
    ⟨retries, [], [], 0, false, .unscheduled, by rw [same, List.append_nil]; rfl⟩
  cutWaiting _ _ accounts := accounts
  cutRunning _ _ _ accounts := accounts

/-- The account of a lifecycle in every phase of its story. -/
theorem Story.accounts {surroundings : Surroundings} (own : surroundings.mine unit = true)
    {before after : Phase × World} (story : Story surroundings executor unit before after)
    (accounts : before.1.Accounts executor unit (before.2.account surroundings.mine)) :
    after.1.Accounts executor unit (after.2.account surroundings.mine) :=
  story.keeps (Phase.lawful_accounts surroundings) own accounts

/-! ## Endings in a scene -/

/-- As long as a task is left and the status is not terminal, nobody gets a result. -/
theorem Phase.Stands.ended_of_isSettled {lifecycle : Lifecycle} {phase : Phase} {run : Universe}
    {items : Multiset (Appointment Job)} {status : Status}
    (stands : phase.Stands lifecycle items status)
    (shown : run.state.statuses.find? lifecycle.handle = some status)
    (tracked : ∀ item ∈ items, World.isTracked run lifecycle.handle = true)
    (settled : World.isSettled lifecycle.handle run = true) :
    phase = .ended (World.resultOf run lifecycle.handle) := by
  have unsettled (item : Appointment Job) (member : item ∈ items)
      (unfinished : status.isTerminal = false) : False := by
    rw [World.isSettled, shown, Option.any_some, unfinished, Bool.false_or,
      tracked item member] at settled
    cases settled
  cases phase with
  | absent | calling | cutOff => exact stands.elim
  | waiting =>
    obtain ⟨⟨owner, rfl⟩, unfinished, -⟩ := stands
    exact (unsettled _ (Multiset.mem_singleton_self _) unfinished).elim
  | running =>
    obtain ⟨⟨owner, rfl⟩, begun⟩ := stands
    exact (unsettled _ (Multiset.mem_singleton_self _)
      (Status.isTerminal_of_isInProgress begun)).elim
  | ended given =>
    rw [World.resultOf, shown, stands.2, Option.bind_some, Status.result?_ofResult]
    rfl

/-- A handle that shows the status of a result gives it. -/
theorem World.isSettled_of_ofResult {run : Universe} {handle : Nat}
    {result : Except Failure Completion}
    (shown : run.state.statuses.find? handle = some (.ofResult result)) :
    isSettled handle run = true ∧ resultOf run handle = result := by
  have terminal := (Status.isTerminal_iff_result? (.ofResult result)).2
    ⟨result, Status.result?_ofResult result⟩
  constructor
  · rw [isSettled, shown, Option.any_some, terminal, Bool.true_or]
  · rw [resultOf, shown, Option.bind_some, Status.result?_ofResult]
    rfl

namespace Scene

/-- A result that a lifecycle of a unit has come to: it was returned to the caller, or it is that of
the terminal status of a handle. A lifecycle that was cut off has come to none. -/
def Reaches (scene : Scene) (unit : WorkUnit) (result : Except Failure Completion) : Prop :=
  (unit, result) ∈ scene.returned ∨
    ∃ lifecycle ∈ scene.handles, lifecycle.unit = unit ∧
      (scene.run.state.statuses.find? lifecycle.handle).bind (·.result?) = some result

/-- A result for a unit that a scene gives to whoever waits for it, directly or on a handle. Who
waits for a lifecycle that was cut off learns of the shutdown. -/
def Gives (scene : Scene) (unit : WorkUnit) (result : Except Failure Completion) : Prop :=
  (unit, result) ∈ scene.returned ∨
    ∃ lifecycle ∈ scene.handles, lifecycle.unit = unit ∧
      World.isSettled lifecycle.handle scene.run = true ∧
      World.resultOf scene.run lifecycle.handle = result

variable {scene : Scene} {phase : Phase} {result : Except Failure Completion}

theorem isTracked_of_mem_agenda {run : Universe} {item : Appointment Job}
    (member : item ∈ run.loop.agenda) :
    World.isTracked run item.body.lifecycle.handle = true := by
  obtain ⟨task, unfinished, same⟩ := EventLoop.exists_task_of_mem_agenda member
  exact List.any_eq_true.2 ⟨task, unfinished, by simp [same]⟩

theorem isTracked_of_mem_signs {lifecycle : Lifecycle} {item : Appointment Job}
    (about : item.body.lifecycle = lifecycle) (seen : .task item ∈ scene.signsOf mine) :
    World.isTracked scene.run lifecycle.handle = true := by
  have appointed : item ∈ scene.run.loop.agenda := task_mem_signs.1 (Multiset.mem_filter.1 seen).1
  exact about ▸ isTracked_of_mem_agenda appointed

/-- A scene gives a result for a lifecycle when it has ended with it or was cut off. -/
theorem phase_of_gives (shows : phase.Shows executor unit (scene.signsOf mine))
    (own : mine unit = true) (gives : scene.Gives unit result) :
    phase = .ended result ∨
      (∃ invoked, phase = .cutOff invoked) ∧ result = .error .schedulerShutDown := by
  rcases gives with member | ⟨lifecycle, member, rfl, settled, rfl⟩
  -- the phase accounts for all signs of its lifecycle, so the sign of a result tells the phase
  · have seen : Sign.result unit result ∈ scene.signsOf mine :=
      Multiset.mem_filter.2 ⟨result_mem_signs.2 member, own⟩
    generalize scene.signsOf mine = signs at shows seen
    cases shows with
    | returned given =>
      cases Multiset.mem_singleton.1 seen
      exact .inl rfl
    | absent => exact absurd seen (Multiset.notMem_zero _)
    | calling | cutOff => cases Multiset.mem_singleton.1 seen
    | onHandle handle stands => simp at seen
  · have seen : Sign.handle lifecycle (scene.run.state.statuses.find? lifecycle.handle) ∈
        scene.signsOf mine :=
      Multiset.mem_filter.2 ⟨handle_mem_signs.2 ⟨member, rfl⟩, own⟩
    have tracked := fun item about =>
      @isTracked_of_mem_signs mine scene lifecycle item about
    generalize scene.signsOf mine = signs at shows seen tracked
    cases shows with
    | absent => exact absurd seen (Multiset.notMem_zero _)
    | calling | returned => cases Multiset.mem_singleton.1 seen
    | cutOff handle unfinished =>
      obtain ⟨-, shown⟩ := Sign.handle.inj (Multiset.mem_singleton.1 seen)
      refine .inr ⟨⟨_, rfl⟩, ?_⟩
      rw [World.resultOf, shown, Option.bind_some, Status.result?_eq_none unfinished]
      rfl
    | onHandle handle stands =>
      rename_i items status
      have shown : Sign.handle lifecycle (scene.run.state.statuses.find? lifecycle.handle) =
          .handle ⟨executor, lifecycle.unit, handle⟩ (some status) := by
        simpa using seen
      obtain ⟨same, shown⟩ := Sign.handle.inj shown
      rw [← same] at stands tracked
      refine .inl (stands.ended_of_isSettled shown (fun item member => ?_) settled)
      exact tracked item (stands.lifecycle_of_mem item member)
        (Multiset.mem_add.2 (.inl (Multiset.mem_map_of_mem _ member)))

/-- A result that a lifecycle has come to is given. -/
theorem gives_of_reaches (reaches : scene.Reaches unit result) : scene.Gives unit result := by
  rcases reaches with returned | ⟨lifecycle, member, about, shown⟩
  · exact .inl returned
  · obtain ⟨status, found, given⟩ := Option.bind_eq_some_iff.1 shown
    have terminal := (Status.isTerminal_iff_result? status).2 ⟨result, given⟩
    refine .inr ⟨lifecycle, member, about, ?_, ?_⟩
    · rw [World.isSettled, found, Option.any_some, terminal, Bool.true_or]
    · rw [World.resultOf, shown, Option.getD_some]

/-- A lifecycle that was cut off stays on its handle, with a status that is not terminal. -/
theorem exists_status_of_cutOff {invoked : Bool}
    (shows : (Phase.cutOff invoked).Shows executor unit (scene.signsOf mine)) :
    ∃ lifecycle ∈ scene.handles, ∃ status, lifecycle.unit = unit ∧
      scene.run.state.statuses.find? lifecycle.handle = some status ∧
      status.isTerminal = false ∧ status.isInProgress = invoked := by
  have seen (sign : Sign) (member : sign ∈ scene.signsOf mine) : sign ∈ scene.signs :=
    (Multiset.mem_filter.1 member).1
  generalize scene.signsOf mine = signs at shows seen
  cases shows with
  | onHandle handle stands => exact stands.elim
  | cutOff handle unfinished =>
    obtain ⟨given, shown⟩ := handle_mem_signs.1 (seen _ (Multiset.mem_singleton_self _))
    exact ⟨_, given, _, rfl, shown, unfinished, rfl⟩

/-- A lifecycle that was cut off has come to no result. -/
theorem not_reaches_of_cutOff {invoked : Bool} (own : mine unit = true)
    (shows : (Phase.cutOff invoked).Shows executor unit (scene.signsOf mine)) :
    ¬ scene.Reaches unit result := by
  have seen (sign : Sign) (member : sign ∈ scene.signs) (about : sign.unit = unit) :
      sign ∈ scene.signsOf mine :=
    Multiset.mem_filter.2 ⟨member, about ▸ own⟩
  generalize scene.signsOf mine = signs at shows seen
  rintro (returned | ⟨lifecycle, member, rfl, given⟩)
  · have shown := seen (.result unit result) (result_mem_signs.2 returned) rfl
    cases shows with
    | onHandle handle stands => exact stands.elim
    | cutOff handle unfinished => cases Multiset.mem_singleton.1 shown
  · have shown := seen (.handle lifecycle (scene.run.state.statuses.find? lifecycle.handle))
      (handle_mem_signs.2 ⟨member, rfl⟩) rfl
    cases shows with
    | onHandle handle stands => exact stands.elim
    | cutOff handle unfinished =>
      obtain ⟨-, last⟩ := Sign.handle.inj (Multiset.mem_singleton.1 shown)
      rw [last, Option.bind_some, Status.result?_eq_none unfinished] at given
      cases given

/-- A lifecycle has ended with the result that it has come to. -/
theorem phase_of_reaches (shows : phase.Shows executor unit (scene.signsOf mine))
    (own : mine unit = true) (reaches : scene.Reaches unit result) : phase = .ended result := by
  rcases phase_of_gives shows own (gives_of_reaches reaches) with ended | ⟨⟨invoked, rfl⟩, -⟩
  · exact ended
  · exact absurd reaches (not_reaches_of_cutOff own shows)

/-- A result that a lifecycle has ended with has been reached. -/
theorem reaches_of_ended (shows : (Phase.ended result).Shows executor unit (scene.signsOf mine)) :
    scene.Reaches unit result := by
  have seen (sign : Sign) (member : sign ∈ scene.signsOf mine) : sign ∈ scene.signs :=
    (Multiset.mem_filter.1 member).1
  generalize scene.signsOf mine = shown at shows seen
  cases shows with
  | returned => exact .inl (result_mem_signs.1 (seen _ (Multiset.mem_singleton_self _)))
  | onHandle handle stands =>
    rename_i items status
    obtain ⟨-, rfl⟩ := stands
    obtain ⟨given, shown⟩ := handle_mem_signs.1
      (seen (.handle ⟨executor, unit, handle⟩ (some (.ofResult result))) (by simp))
    refine .inr ⟨_, given, rfl, ?_⟩
    rw [shown, Option.bind_some, Status.result?_ofResult]

/-- A scene gives the result of a lifecycle that has ended. -/
theorem gives_of_ended (shows : (Phase.ended result).Shows executor unit (scene.signsOf mine)) :
    scene.Gives unit result :=
  gives_of_reaches (reaches_of_ended shows)

/-- The phase of a lifecycle of a unit with its own id, and its account. -/
theorem accounts_of_play (executor : Executor) (unit : WorkUnit) (world : World) (now : Nat)
    (moves : List Move)
    (alone : starts (fun other => other.id = unit.id) moves = [(executor, unit)]) :
    ∃ phase : Phase, phase.Shows executor unit
        (((opening world now).play moves).signsOf fun other => other.id = unit.id) ∧
      phase.Accounts executor unit
        (((opening world now).play moves).run.state.account fun other => other.id = unit.id) ∧
      (phase.isCutOff = true → ∃ scheduler, .shutDown scheduler ∈ moves) := by
  obtain ⟨phase, shows, story, -, cut⟩ := @story_of_play
    ⟨fun other => other.id = unit.id, fun _ _ => True, fun _ => True, fun _ => True⟩ executor unit
    world now moves
    (fun move _ => by cases move <;> first | trivial | exact fun _ => trivial) alone
  exact ⟨phase, shows, story.accounts (decide_eq_true rfl) rfl, cut⟩

/-- A lifecycle of a unit with its own id has one ending, and the journal tells it. Whatever else
happens, the events about the unit are those of its retries followed by those of the ending; the
compensation ran if the unit was given up, and the source was asked to acknowledge it if it was
completed; and the invocations are one more than the retries, unless the last attempt was not
invoked. A lifecycle that was cut off has come to no result: see `account_of_cutOff`. -/
theorem one_ending (executor : Executor) (unit : WorkUnit) (world : World) (now : Nat)
    (moves : List Move) (result : Except Failure Completion)
    (alone : starts (fun other => other.id = unit.id) moves = [(executor, unit)])
    (reaches : ((opening world now).play moves).Reaches unit result) :
    ∃ retries last actions thanks, ∃ invoked : Bool,
      let told := ((opening world now).play moves).run.state.account fun other => other.id = unit.id
      Ending executor unit result last actions thanks invoked ∧
        told.events = retryEvents retries ++ last ∧ told.actions = actions ∧
        told.thanks = thanks ∧
        told.invocations + (if invoked then 0 else 1) = 1 + retries.length := by
  obtain ⟨phase, shows, accounts, -⟩ := accounts_of_play executor unit world now moves alone
  obtain rfl := phase_of_reaches shows (decide_eq_true rfl) reaches
  obtain ⟨retries, last, actions, thanks, invoked, ending, told⟩ := accounts
  refine ⟨retries, last, actions, thanks, invoked, ending, ?_⟩
  rw [told]
  refine ⟨rfl, rfl, rfl, ?_⟩
  cases invoked <;> simp [Nat.add_comm]

/-- An operation that always fails, under a policy without retries and with a compensation that
recovers: the unit is given up and recovered. -/
theorem one_ending_recovered :
    let executor : Executor :=
      { counter := default
        handler := ⟨.noRetry, some (.custom "rescue" fun _ => .ok .recovered)⟩ }
    let unit : WorkUnit := ⟨"a", "deliver", none, .empty⟩
    let operation : Operation :=
      { name := "down", respond := fun _ _ => ⟨.zero, .error (.of .timeout "late")⟩ }
    let world : World := { operations := Table.insert {} 0 operation }
    let moves : List Move := [.enter executor unit, .leave 0]
    starts (fun other => other.id = unit.id) moves = [(executor, unit)] ∧
      ((opening world 0).play moves).Reaches unit (.ok (.recovered 1)) ∧
      ∃ retries last actions thanks, ∃ invoked : Bool,
        let told := ((opening world 0).play moves).run.state.account fun other => other.id = unit.id
        Ending executor unit (.ok (.recovered 1)) last actions thanks invoked ∧
          told.events = retryEvents retries ++ last ∧ told.actions = actions ∧
          told.thanks = thanks ∧
          told.invocations + (if invoked then 0 else 1) = 1 + retries.length := by
  intro executor unit operation world moves
  have alone : starts (fun other => other.id = unit.id) moves = [(executor, unit)] := rfl
  have reaches : ((opening world 0).play moves).Reaches unit (.ok (.recovered 1)) :=
    .inl (List.mem_singleton.2 rfl)
  exact ⟨alone, reaches, one_ending executor unit world 0 moves _ alone reaches⟩

/-- A lifecycle of a unit with its own id that was cut off before it came to a result: who waits for
it learns of the shutdown, and its handle keeps the last status. Every retry followed an invocation,
and one more invocation was cut off if the status tells of it. Compensations and acknowledgements
take no time here, so the cut never falls between the end of an operation and what follows it. -/
theorem account_of_cutOff (executor : Executor) (unit : WorkUnit) (world : World) (now : Nat)
    (moves : List Move) (result : Except Failure Completion)
    (alone : starts (fun other => other.id = unit.id) moves = [(executor, unit)]) :
    let scene := (opening world now).play moves
    scene.Gives unit result → ¬ scene.Reaches unit result →
      result = .error .schedulerShutDown ∧ (∃ scheduler, .shutDown scheduler ∈ moves) ∧
      ∃ lifecycle ∈ scene.handles, ∃ status retries, lifecycle.unit = unit ∧
        scene.run.state.statuses.find? lifecycle.handle = some status ∧
        status.isTerminal = false ∧
        scene.run.state.account (fun other => other.id = unit.id) =
          { events := retryEvents retries
            invocations := retries.length + if status.isInProgress then 1 else 0 } := by
  intro scene gives unreached
  obtain ⟨phase, shows, accounts, cut⟩ := accounts_of_play executor unit world now moves alone
  rcases phase_of_gives shows (decide_eq_true rfl) gives with rfl | ⟨⟨invoked, rfl⟩, same⟩
  · exact absurd (reaches_of_ended shows) unreached
  · obtain ⟨lifecycle, member, status, about, shown, unfinished, rfl⟩ :=
      exists_status_of_cutOff shows
    obtain ⟨retries, told⟩ := accounts
    exact ⟨same, cut rfl, lifecycle, member, status, retries, about, shown, unfinished, told⟩

end Scene

end Resilience
