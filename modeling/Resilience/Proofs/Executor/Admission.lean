import Resilience.Proofs.Breaker.Log
import Resilience.Proofs.Executor.Endings

/-!
# Attempts and their breaker

The first half of an attempt asks the breaker of its executor for admission, at the instant at which
it invokes the operation or is turned away. The second half reports what the invocation came to:
exactly one report for each invocation, unless the operation is cut off. The filter of the breaker
may leave a fault uncounted; a unit that is not found when it is retried is reported as a success.

## Main definitions

* `Executor.Gate` — what the first half of an attempt does to its breaker
* `Breaker.resolve` — what the second half reports
* `World.Books` — invocations, reports and denials since a breaker stood as it did at first

## Main statements

* `Executor.gate_beginAttempt`, `Executor.find?_endAttempt` — there is nothing else
* `World.Books.begun`, `World.Books.concluded` — the books balance
-/

namespace Resilience

/-- Whether a filter leaves the result of an invocation uncounted. A unit that is not found when it
is retried counts as a success. -/
def FaultFilter.overlooks (filter : FaultFilter) (prior : Nat) : Except Fault Unit → Bool
  | .ok () => false
  | .error fault =>
    if 0 < prior ∧ fault.isKind .notFound = true then false else !filter.counts fault

/-! ## Totals of a breaker -/

namespace Breaker

variable (breaker : Breaker) (now : Instant)

/-- An admission counts nothing, and a denial is one more rejection. -/
theorem totals_acquire :
    (breaker.acquire now).2.breaker.config = breaker.config ∧
      (breaker.acquire now).2.breaker.totals.calls = breaker.totals.calls ∧
      (breaker.acquire now).2.breaker.totals.rejections =
        breaker.totals.rejections + if (breaker.acquire now).1.isOk then 0 else 1 := by
  obtain ⟨calls, rejections⟩ := breaker.totals_perform now .acquire
  refine ⟨(breaker.acquire_fixed now).1, calls, rejections.trans ?_⟩
  rw [turnsDown]
  cases (breaker.acquire now).1.isOk <;> rfl

theorem totals_recordSuccess :
    (breaker.recordSuccess now).breaker.config = breaker.config ∧
      (breaker.recordSuccess now).breaker.totals.calls = breaker.totals.calls + 1 ∧
      (breaker.recordSuccess now).breaker.totals.rejections = breaker.totals.rejections :=
  ⟨(breaker.recordSuccess_fixed now).1, breaker.totals_perform now .success⟩

theorem totals_recordFault (fault : Fault) :
    (breaker.recordFault fault now).breaker.config = breaker.config ∧
      (breaker.recordFault fault now).breaker.totals.calls =
        breaker.totals.calls + (if breaker.config.filter.counts fault then 1 else 0) ∧
      (breaker.recordFault fault now).breaker.totals.rejections = breaker.totals.rejections := by
  obtain ⟨calls, rejections⟩ := breaker.totals_perform now (.fault fault)
  refine ⟨(breaker.perform_fixed now (.fault fault)).1, calls.trans ?_, rejections⟩
  rw [BreakerRequest.record?]
  split <;> rfl

/-- The report of an invocation: a unit that is not found when it is retried counts as a success. -/
def resolve (breaker : Breaker) (prior : Nat) (concluded : Except Fault Unit) (now : Instant) :
    Change :=
  match concluded with
  | .ok () => breaker.recordSuccess now
  | .error fault =>
    if 0 < prior ∧ fault.isKind .notFound = true then breaker.recordSuccess now
    else breaker.recordFault fault now

/-- A report is one more call, unless it is about a fault that the filter overlooks. -/
theorem totals_resolve (prior : Nat) (concluded : Except Fault Unit) :
    (breaker.resolve prior concluded now).breaker.config = breaker.config ∧
      (breaker.resolve prior concluded now).breaker.totals.calls +
          (breaker.config.filter.overlooks prior concluded).toNat = breaker.totals.calls + 1 ∧
      (breaker.resolve prior concluded now).breaker.totals.rejections =
        breaker.totals.rejections := by
  cases concluded with
  | ok _ => exact breaker.totals_recordSuccess now
  | error fault =>
    rw [resolve, FaultFilter.overlooks]
    split
    · exact breaker.totals_recordSuccess now
    · obtain ⟨config, calls, rejections⟩ := breaker.totals_recordFault now fault
      refine ⟨config, ?_, rejections⟩
      rw [calls]
      cases breaker.config.filter.counts fault <;> rfl

end Breaker

/-! ## Breakers of a world -/

namespace World

variable (world : World) (now : Nat)

@[simp] theorem breakers_record (occurrence : Occurrence) :
    (world.record now occurrence).breakers = world.breakers := rfl

@[simp] theorem breakers_askCounter {α : Type} (request : Ledger → Served α) :
    (world.askCounter now request).2.breakers = world.breakers :=
  foldl_view (·.breakers) (fun world fallback =>
    world.breakers_record now (.audited (.counterFellBack fallback))) _ _

@[simp] theorem breakers_compensate (compensation : Compensation) (setback : Setback) :
    (world.compensate now compensation setback).2.breakers = world.breakers := by
  rw [compensate_eq]
  exact foldl_view (·.breakers) (fun world _ => world.breakers_record now _) _ _

@[simp] theorem breakers_setBreaker (id : Nat) (change : Breaker.Change) :
    (world.setBreaker now id change).breakers = world.breakers.insert id change.breaker := by
  unfold setBreaker
  dsimp only
  split <;> rfl

/-- An operation on a breaker that a world has. -/
theorem find?_changeBreaker {id : Nat} {breaker : Breaker}
    (found : world.breakers.find? id = some breaker) (operation : Breaker → Breaker.Change) :
    (world.changeBreaker now (some id) operation).breakers.find? id =
      some (operation breaker).breaker := by
  simp only [changeBreaker, found, breakers_setBreaker, Table.find?_insert_self]

end World

namespace Executor

variable {executor : Executor} {unit : WorkUnit} {prior now id : Nat} {world : World}
  {breaker : Breaker}

@[simp] theorem breakers_resetCount :
    (executor.resetCount unit now world).breakers = world.breakers :=
  world.breakers_askCounter now _

@[simp] theorem breakers_acknowledge :
    (executor.acknowledge unit now world).breakers = world.breakers := by
  rw [acknowledge]
  split <;> rfl

@[simp] theorem breakers_isStillPending :
    (executor.isStillPending unit now world).2.breakers = world.breakers := by
  rw [isStillPending]
  split
  · rfl
  · dsimp only
    split <;> rfl

theorem breakers_giveUp (setback : Setback) (attempts : Nat) (compensation : Option Compensation) :
    (executor.giveUp unit setback attempts compensation now world).2.breakers = world.breakers := by
  cases compensation with
  | none => exact breakers_resetCount
  | some compensation =>
    have ran := (((executor.resetCount unit now world).audit now
      (.gaveUp setback (some compensation.name))).breakers_compensate now compensation
        setback).trans breakers_resetCount
    rw [giveUp]
    dsimp only [Option.map_some]
    split <;> exact ran

/-- What the first half of an attempt does to its breaker: it is admitted, and the operation is
invoked; or it is denied, and the work ends; or the unit has gone, and the breaker is not asked. -/
inductive Gate (breaker : Breaker) (now : Instant) : Begun → Breaker → Prop
  | admitted {response : Response} (passed : (breaker.acquire now).1 = .ok ()) :
    Gate breaker now (.running response) (breaker.acquire now).2.breaker
  | denied {denial : Denial} (refused : (breaker.acquire now).1 = .error denial) :
    Gate breaker now (.ended (.error (breaker.denied denial))) (breaker.acquire now).2.breaker
  | unasked {completion : Completion} : Gate breaker now (.ended (.ok completion)) breaker

theorem gate_invoke (gated : executor.breaker = some id)
    (found : world.breakers.find? id = some breaker) :
    ∃ after, (executor.invoke unit now world).2.breakers.find? id = some after ∧
      Gate breaker (Instant.ofMillis now) (executor.invoke unit now world).1 after := by
  have asked : (world.acquire now executor.breaker) =
      ((breaker.acquire (Instant.ofMillis now)).1.mapError breaker.denied,
        world.setBreaker now id (breaker.acquire (Instant.ofMillis now)).2) := by
    rw [gated, World.acquire]
    simp only [found]
  have kept : (world.setBreaker now id
      (breaker.acquire (Instant.ofMillis now)).2).breakers.find? id =
        some (breaker.acquire (Instant.ofMillis now)).2.breaker := by
    rw [World.breakers_setBreaker, Table.find?_insert_self]
  refine ⟨(breaker.acquire (Instant.ofMillis now)).2.breaker, ?_⟩
  rw [invoke, asked]
  cases answer : (breaker.acquire (Instant.ofMillis now)).1 with
  | error denial => exact ⟨kept, .denied answer⟩
  | ok _ => exact ⟨kept, .admitted answer⟩

/-- The first half of an attempt passes the gate of its breaker. -/
theorem gate_beginAttempt (gated : executor.breaker = some id)
    (found : world.breakers.find? id = some breaker) :
    ∃ after, (executor.beginAttempt unit prior now world).2.breakers.find? id = some after ∧
      Gate breaker (Instant.ofMillis now) (executor.beginAttempt unit prior now world).1 after := by
  rw [beginAttempt]
  split
  · exact gate_invoke gated found
  · -- the source is asked before the breaker
    have still : (executor.isStillPending unit now world).2.breakers.find? id = some breaker := by
      rw [breakers_isStillPending, found]
    dsimp only
    split
    · exact gate_invoke gated still
    · refine ⟨breaker, ?_, .unasked⟩
      dsimp only [abandon]
      exact (congrArg (·.find? id) breakers_resetCount).trans still

/-- The second half of an attempt makes one report to its breaker. -/
theorem find?_endAttempt (gated : executor.breaker = some id)
    (found : world.breakers.find? id = some breaker) (outcome : Except Fault Unit) :
    (executor.endAttempt unit prior outcome now world).2.breakers.find? id =
      some (breaker.resolve prior ((world.operation executor.operation).conclude unit outcome)
        (Instant.ofMillis now)).breaker := by
  have changed (operation : Breaker → Breaker.Change) :
      (world.changeBreaker now executor.breaker operation).breakers.find? id =
        some (operation breaker).breaker := by
    rw [gated, world.find?_changeBreaker now found]
  rw [endAttempt]
  cases (world.operation executor.operation).conclude unit outcome with
  | ok _ =>
    dsimp only [complete, Breaker.resolve]
    rw [breakers_acknowledge, breakers_resetCount, changed]
  | error fault =>
    dsimp only [Breaker.resolve]
    split
    · dsimp only [abandon]
      exact (congrArg (·.find? id) breakers_resetCount).trans (changed _)
    · -- the report comes first, and neither the count nor a compensation touches the breaker
      rw [handle, countAttempt_eq]
      dsimp only
      split
      · exact (congrArg (·.find? id) (World.breakers_askCounter _ now _)).trans (changed _)
      · dsimp only
        rw [breakers_giveUp]
        exact (congrArg (·.find? id) (World.breakers_askCounter _ now _)).trans (changed _)

end Executor

/-! ## Books -/

/-- The fault of a failed attempt that an event reports. -/
def AuditEvent.fault? : AuditEvent → Option Fault
  | retryScheduled setback _ | gaveUp setback _ => some setback.fault
  | compensationFailed .. | unitAbandoned .. | circuitChanged _ | counterFellBack _ => none

/-- The number of failed attempts in an account whose faults a filter does not count. -/
def Account.uncounted (filter : FaultFilter) (account : Account) : Nat :=
  account.events.countP fun event => event.fault?.any (!filter.counts ·)

theorem Account.uncounted_plus (filter : FaultFilter) (first second : Account) :
    (first.plus second).uncounted filter = first.uncounted filter + second.uncounted filter :=
  List.countP_append

/-- A failed attempt reports its fault, which the filter counts or not. -/
theorem Account.uncounted_of_fault (filter : FaultFilter) {event : AuditEvent} {fault : Fault}
    (reports : event.fault? = some fault) :
    (Resilience.account [.audited event]).uncounted filter =
      (!filter.counts fault).toNat := by
  have events : (Resilience.account [.audited event]).events = [event] := rfl
  rw [uncounted, events, List.countP_singleton, reports, Option.any_some]
  cases filter.counts fault <;> rfl

/-- A compensation that fails is no failed attempt. -/
theorem Account.uncounted_failureEvents (filter : FaultFilter) (setback : Setback)
    (failures : List (String × Failure)) (actions : List Compensation) :
    Account.uncounted filter { events := failureEvents setback failures, actions } = 0 := by
  refine List.countP_eq_zero.2 fun event member => ?_
  obtain ⟨failure, -, rfl⟩ := List.mem_map.1 member
  exact Bool.false_ne_true

/-- The number of invocations that an attempt leaves under way. -/
def Begun.underWay : Begun → Nat
  | running _ => 1
  | ended _ => 0

/-- Whether a result says that a breaker did not admit an attempt. -/
def isDenial : Except Failure Completion → Bool
  | .error failure => failure.isDenied
  | .ok _ => false

/-- One if an attempt is not admitted. -/
def Begun.denials : Begun → Nat
  | running _ => 0
  | ended result => (isDenial result).toNat

/-- The books of a breaker since it stood as it did at first: the invocations are its calls, the
failed ones that its filter does not count and those that have not come to a result; its rejections
are the attempts that were denied. -/
def World.Books (id : Nat) (first : Breaker) (underWay denied : Nat) (world : World) : Prop :=
  let told := world.account fun _ => true
  ∃ breaker, world.breakers.find? id = some breaker ∧ breaker.config = first.config ∧
    told.invocations + first.totals.calls =
      breaker.totals.calls + told.uncounted first.config.filter + underWay ∧
    breaker.totals.rejections = first.totals.rejections + denied

namespace Executor

variable {executor : Executor} {unit : WorkUnit} {prior now : Nat} {breaker after : Breaker}

/-- What the gate does to the totals. -/
theorem Gate.totals {instant : Instant} {begun : Begun}
    (gate : Gate breaker instant begun after) :
    after.config = breaker.config ∧ after.totals.calls = breaker.totals.calls ∧
      after.totals.rejections = breaker.totals.rejections + begun.denials := by
  cases gate with
  | admitted passed =>
    have totals := breaker.totals_acquire instant
    rw [passed] at totals
    exact totals
  | denied refused =>
    have totals := breaker.totals_acquire instant
    rw [refused] at totals
    exact totals
  | unasked => exact ⟨rfl, rfl, rfl⟩

/-- The first half of an attempt makes one invocation or none, and reports no fault. -/
theorem Opening.invocations {world : World} {begun : Begun} {occurrences : List Occurrence}
    {holdings : World.Holdings} (filter : FaultFilter)
    (opening : executor.Opening unit prior now world begun occurrences holdings) :
    (account occurrences).invocations = begun.underWay ∧
      (account occurrences).uncounted filter = 0 := by
  cases opening with
  | denied =>
    rw [account_check]
    exact ⟨rfl, rfl⟩
  | invoked =>
    rw [account_append, account_check]
    exact ⟨rfl, rfl⟩
  | gone => exact ⟨rfl, rfl⟩

/-- The second half of an attempt makes no invocation and denies nothing, and it reports a fault
that a filter does not count if the invocation came to one. -/
theorem Closing.uncounted {concluded : Except Fault Unit} {before holdings : World.Holdings}
    {sequel : Sequel} {occurrences : List Occurrence} (filter : FaultFilter)
    (closing : executor.Closing unit prior now concluded before sequel occurrences holdings) :
    (account occurrences).invocations = 0 ∧
      (account occurrences).uncounted filter = (filter.overlooks prior concluded).toNat ∧
      ∀ result, sequel = .done result → isDenial result = false := by
  cases closing with
  | completed succeeded =>
    rw [account_thanks, succeeded]
    exact ⟨rfl, rfl, fun result done => by cases done; rfl⟩
  | vanished failed retried notFound =>
    rw [failed, FaultFilter.overlooks, if_pos ⟨retried, notFound⟩]
    exact ⟨rfl, rfl, fun result done => by cases done; rfl⟩
  | retried entropy failed present numbered worthwhile =>
    rw [failed, FaultFilter.overlooks, if_neg present]
    exact ⟨rfl, Account.uncounted_of_fault filter rfl, fun result done => by cases done⟩
  | gaveUp sources failed present numbered spent =>
    rename_i fault attempt
    -- the fault is reported once, when the unit is given up; what follows reports none
    obtain ⟨failures, given⟩ := account_givenUp unit (executor.setback unit now fault attempt)
      attempt sources executor.handler.compensation
    rw [← List.singleton_append, account_append, Account.uncounted_plus, given,
      Account.uncounted_failureEvents, failed, FaultFilter.overlooks, if_neg present]
    refine ⟨rfl, Account.uncounted_of_fault filter rfl, fun result done => ?_⟩
    cases done
    rw [result_givenUp]
    split <;> rfl

end Executor

namespace World.Books

variable {executor : Executor} {unit : WorkUnit} {prior now id : Nat} {world : World}
  {first : Breaker} {underWay denied : Nat}

/-- The books after the first half of an attempt. -/
theorem begun (books : world.Books id first underWay denied)
    (gated : executor.breaker = some id) :
    (executor.beginAttempt unit prior now world).2.Books id first
      (underWay + (executor.beginAttempt unit prior now world).1.underWay)
      (denied + (executor.beginAttempt unit prior now world).1.denials) := by
  obtain ⟨breaker, found, config, calls, rejections⟩ := books
  obtain ⟨after, kept, gate⟩ := Executor.gate_beginAttempt gated found
  obtain ⟨occurrences, opening, tale⟩ := @Executor.tale_beginAttempt_of_mine executor unit prior now
    world (fun _ => true) rfl
  obtain ⟨sameConfig, sameCalls, moreRejections⟩ := gate.totals
  obtain ⟨invocations, uncounted⟩ := opening.invocations first.config.filter
  refine ⟨after, kept, sameConfig.trans config, ?_, by omega⟩
  rw [World.account_of_tale tale, Account.uncounted_plus, Account.plus]
  dsimp only
  omega

/-- The books after the second half of an attempt. -/
theorem concluded (books : world.Books id first (underWay + 1) denied)
    (gated : executor.breaker = some id) (outcome : Except Fault Unit) :
    (executor.endAttempt unit prior outcome now world).2.Books id first underWay denied ∧
      ∀ result, (executor.endAttempt unit prior outcome now world).1 = .done result →
        isDenial result = false := by
  obtain ⟨breaker, found, config, calls, rejections⟩ := books
  have kept := @Executor.find?_endAttempt executor unit prior now id world breaker gated found
    outcome
  obtain ⟨occurrences, closing, tale⟩ := @Executor.tale_endAttempt_of_mine executor unit prior now
    world (fun _ => true) rfl outcome
  obtain ⟨invocations, uncounted, undenied⟩ := closing.uncounted first.config.filter
  obtain ⟨sameConfig, resolved, sameRejections⟩ := breaker.totals_resolve (Instant.ofMillis now)
    prior ((world.operation executor.operation).conclude unit outcome)
  refine ⟨⟨_, kept, sameConfig.trans config, ?_, sameRejections.trans rejections⟩, undenied⟩
  rw [World.account_of_tale tale, Account.uncounted_plus, Account.plus]
  rw [config] at resolved
  dsimp only
  omega

end World.Books

end Resilience
