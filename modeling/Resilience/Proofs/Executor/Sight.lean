import Resilience.Proofs.Counter.Live
import Resilience.Proofs.Executor.Reference

/-!
# What a lifecycle can see

A lifecycle shares its world with all others, but it sees a part of it only: what still holds of its
count, the operation with the number of its own invocations, what the sources know about its unit,
and what it has told itself. Without a breaker and without random delays, everything an attempt does
depends on this sight, and attempts on other units leave the sight as it is.

## Main definitions

* `Source.sight`, `Source.sights` — what sources know about a unit
* `World.shown` — the statuses that a handle has shown
* `Executor.Sight`, `Executor.sight` — what a lifecycle can see
* `Executor.IsPlain` — executors without a breaker, random delays and composed counters
* `Executor.Predicts` — whether the responses to a unit depend on how often it was invoked

## Main statements

* `Executor.beginAttempt_of_sight`, `endAttempt_of_sight` — attempts depend on the sight
* `Executor.sight_beginAttempt_of_other`, `sight_endAttempt_of_other` — attempts on other units do
  not change it
-/

namespace Resilience

/-- Two units that have neither their ids nor their retry keys in common. -/
structure WorkUnit.IsApart (unit other : WorkUnit) : Prop where
  id : unit.id ≠ other.id
  key : unit.retryKey ≠ other.retryKey

theorem WorkUnit.IsApart.ne {unit other : WorkUnit} (apart : unit.IsApart other) : other ≠ unit :=
  fun same => apart.id (congrArg WorkUnit.id same.symm)

/-- Units whose ids differ in length are apart. -/
theorem WorkUnit.isApart_of_length {unit : WorkUnit} {id : String}
    (differ : unit.id.length ≠ id.length) : unit.IsApart { unit with id } := by
  refine ⟨fun same => differ (congrArg String.length same), fun same => differ ?_⟩
  have length := congrArg String.length same
  simpa [retryKey, fingerprint] using length

/-! ## Sources -/

namespace Source

/-- What requests about a unit depend on. -/
structure Sight where
  id : String
  failing : SourceRequest → Bool
  assumesPending : Bool
  isPending : Bool

def sight (source : Source) (unitId : String) : Sight where
  id := source.id
  failing := source.failing
  assumesPending := source.assumesPending
  isPending := unitId ∈ source.pending

/-- What all sources know about a unit. -/
def sights (sources : Table Nat Source) (unitId : String) (id : Nat) : Sight :=
  ((sources.find? id).getD default).sight unitId

variable {first second source : Source} {unitId other : String}

/-- Two sources that know the same about a unit. -/
theorem of_sight (same : first.sight unitId = second.sight unitId) :
    first.failure = second.failure ∧ first.failing = second.failing ∧
      first.assumesPending = second.assumesPending ∧
      (unitId ∈ first.pending ↔ unitId ∈ second.pending) := by
  obtain ⟨id, failing, assumes, pending⟩ := Sight.mk.inj same
  exact ⟨congrArg (Failure.source · "simulated failure") id, failing, assumes,
    decide_eq_decide.1 pending⟩

theorem isPending_of_sight (same : first.sight unitId = second.sight unitId) :
    first.isPending unitId = second.isPending unitId := by
  obtain ⟨failure, failing, assumes, pending⟩ := of_sight same
  rw [isPending, isPending, failure, failing, assumes, decide_eq_decide.2 pending]

/-- Whether a unit is pending once another one, or the unit itself, has been taken away. -/
theorem mem_pending_take (source : Source) (unitId other : String) :
    unitId ∈ (source.take other).2.pending ↔ unitId ∈ source.pending ∧ unitId ≠ other := by
  rw [take, List.mem_filter, decide_eq_true_eq]

/-- Whoever takes a unit away leaves the same to be known about it. -/
theorem take_of_sight (same : first.sight unitId = second.sight unitId) :
    (first.take unitId).2.sight unitId = (second.take unitId).2.sight unitId := by
  obtain ⟨-, failing, assumes, -⟩ := of_sight same
  have id := congrArg Sight.id same
  simp only [sight, mem_pending_take, ne_eq, not_true_eq_false, and_false]
  exact congrArg₂ (fun id rest => Sight.mk id rest.1 rest.2 _) id
    (Prod.ext failing assumes : (first.failing, first.assumesPending) = (_, _))

theorem sight_take_of_ne (apart : unitId ≠ other) :
    (source.take other).2.sight unitId = source.sight unitId := by
  simp only [sight, mem_pending_take, apart, ne_eq, not_false_eq_true, and_true]
  rfl

theorem acknowledge_of_sight (same : first.sight unitId = second.sight unitId) :
    (first.acknowledge unitId).1 = (second.acknowledge unitId).1 ∧
      (first.acknowledge unitId).2.sight unitId = (second.acknowledge unitId).2.sight unitId := by
  obtain ⟨failure, failing, -⟩ := of_sight same
  rw [acknowledge, acknowledge, failing]
  split
  · exact ⟨congrArg Except.error failure, same⟩
  · exact ⟨rfl, take_of_sight same⟩

theorem remove_of_sight (same : first.sight unitId = second.sight unitId) :
    (first.remove unitId).1 = (second.remove unitId).1 ∧
      (first.remove unitId).2.sight unitId = (second.remove unitId).2.sight unitId := by
  obtain ⟨failure, failing, -⟩ := of_sight same
  rw [remove, remove, failing]
  split
  · exact ⟨congrArg Except.error failure, same⟩
  · exact ⟨rfl, take_of_sight same⟩

theorem sight_acknowledge_of_ne (apart : unitId ≠ other) :
    (source.acknowledge other).2.sight unitId = source.sight unitId := by
  rw [acknowledge]
  split
  · rfl
  · exact @sight_take_of_ne source unitId other apart

theorem sight_remove_of_ne (apart : unitId ≠ other) :
    (source.remove other).2.sight unitId = source.sight unitId := by
  rw [remove]
  split
  · rfl
  · exact @sight_take_of_ne source unitId other apart

theorem sights_insert (sources : Table Nat Source) (unitId : String) (id : Nat) (source : Source) :
    sights (sources.insert id source) unitId =
      Function.update (sights sources unitId) id (source.sight unitId) := by
  funext other
  by_cases same : other = id
  · subst same
    rw [sights, Table.find?_insert_self, Function.update_self]
    rfl
  · rw [sights, Table.find?_insert_ne _ _ same, Function.update_of_ne same, sights]

end Source

/-! ## Compensations -/

namespace Compensation

open Source (sights sights_insert)

variable {setback : Setback} {unitId : String}

/-- Removing a unit is a request to the source; without the source nothing would fail. -/
theorem removeFrom_eq (id : Nat) (setback : Setback) (sources : Table Nat Source) :
    let source := (sources.find? id).getD default
    (removeFrom id setback sources).verdict =
        (source.remove setback.unit.id).1.map (fun _ => Verdict.propagate) ∧
      ∀ unitId, sights (removeFrom id setback sources).sources unitId =
        Function.update (sights sources unitId) id
          ((source.remove setback.unit.id).2.sight unitId) := by
  rw [removeFrom]
  cases found : sources.find? id with
  | some source => exact ⟨rfl, fun unitId => sights_insert ..⟩
  | none =>
    refine ⟨rfl, fun unitId => ?_⟩
    have unknown : sights sources unitId id = (default : Source).sight unitId := by
      rw [sights, found]
      rfl
    exact (Function.update_eq_self_iff.2 unknown.symm).symm

mutual

/-- What a compensation comes to depends on what the sources know about the unit. -/
theorem run_of_sights (compensation : Compensation) {first second : Table Nat Source}
    (same : sights first setback.unit.id = sights second setback.unit.id) :
    (compensation.run setback first).verdict = (compensation.run setback second).verdict ∧
      (compensation.run setback first).notes = (compensation.run setback second).notes ∧
      sights (compensation.run setback first).sources setback.unit.id =
        sights (compensation.run setback second).sources setback.unit.id := by
  cases compensation with
  | log => exact ⟨rfl, rfl, same⟩
  | custom name action => exact ⟨rfl, rfl, same⟩
  | removeUnit id =>
    obtain ⟨verdict, removed⟩ := Source.remove_of_sight (congrFun same id)
    obtain ⟨firstVerdict, firstSources⟩ := removeFrom_eq id setback first
    obtain ⟨secondVerdict, secondSources⟩ := removeFrom_eq id setback second
    simp only [run, removeFrom_notes, true_and]
    rw [firstVerdict, secondVerdict, firstSources, secondSources, verdict, removed, same]
    exact ⟨rfl, rfl⟩
  | composite parts =>
    rw [run, run]
    exact runParts_of_sights parts .propagate same

theorem runParts_of_sights (parts : List Compensation) (verdict : Verdict)
    {first second : Table Nat Source}
    (same : sights first setback.unit.id = sights second setback.unit.id) :
    (runParts parts setback first verdict).verdict =
        (runParts parts setback second verdict).verdict ∧
      (runParts parts setback first verdict).notes =
        (runParts parts setback second verdict).notes ∧
      sights (runParts parts setback first verdict).sources setback.unit.id =
        sights (runParts parts setback second verdict).sources setback.unit.id := by
  cases parts with
  | nil =>
    rw [runParts, runParts]
    exact ⟨rfl, rfl, same⟩
  | cons part rest =>
    obtain ⟨partVerdict, partNotes, partSources⟩ := run_of_sights part same
    rw [runParts, runParts]
    dsimp only
    rw [partVerdict, partNotes]
    rcases (part.run setback second).verdict with failure | (_ | _)
    all_goals
      dsimp only
      obtain ⟨restVerdict, restNotes, restSources⟩ := runParts_of_sights rest _ partSources
      exact ⟨restVerdict, congrArg (_ ++ ·) restNotes, restSources⟩

end

mutual

/-- A compensation for another unit changes nothing that the sources know about a unit. -/
theorem sights_run_of_ne (compensation : Compensation) (sources : Table Nat Source)
    (apart : unitId ≠ setback.unit.id) :
    sights (compensation.run setback sources).sources unitId = sights sources unitId := by
  cases compensation with
  | log => rfl
  | custom name action => rfl
  | removeUnit id =>
    rw [run, (removeFrom_eq id setback sources).2, Source.sight_remove_of_ne apart]
    exact Function.update_eq_self id _
  | composite parts =>
    rw [run]
    exact sights_runParts_of_ne parts sources .propagate apart

theorem sights_runParts_of_ne (parts : List Compensation) (sources : Table Nat Source)
    (verdict : Verdict) (apart : unitId ≠ setback.unit.id) :
    sights (runParts parts setback sources verdict).sources unitId = sights sources unitId := by
  cases parts with
  | nil => rw [runParts]
  | cons part rest =>
    obtain ⟨_, next, same, -⟩ := runParts_cons setback part rest sources verdict
    rw [same]
    exact (sights_runParts_of_ne rest _ next apart).trans (sights_run_of_ne part sources apart)

end

end Compensation

/-! ## Statuses on a handle -/

/-- The status that a handle shows, if that is what happens. -/
def Occurrence.status? (handle : Nat) : Occurrence → Option Status
  | published other status => if other = handle then some status else none
  | audited _ | invoked .. | asked .. | compensated .. => none

namespace World

/-- The statuses that a handle has shown, with their times. -/
def shown (world : World) (handle : Nat) : List (Nat × Status) :=
  world.journal.toList.filterMap fun entry =>
    (entry.occurrence.status? handle).map fun status => (entry.time, status)

variable (world : World) (handle now : Nat)

theorem shown_record (occurrence : Occurrence) :
    (world.record now occurrence).shown handle =
      world.shown handle ++ ((occurrence.status? handle).map (now, ·)).toList := by
  rw [shown, record, Array.toList_push, List.filterMap_append, shown]
  cases status : occurrence.status? handle <;> simp [status]

end World

/-! ## The sight of a lifecycle -/

namespace Executor

/-- What a lifecycle can see. -/
structure Sight where
  count : Bool × Option (Int × Option Instant)
  respond : List Call → WorkUnit → Response
  /-- How often the operation was invoked on the unit. -/
  calls : Nat
  rejection : Option FaultKind
  sources : Nat → Source.Sight
  tale : List JournalEntry
  shown : List (Nat × Status)

/-- What the lifecycle of a unit with some handle can see at a clock reading. -/
def sight (executor : Executor) (unit : WorkUnit) (handle now : Nat) (world : World) : Sight where
  count := executor.counter.sight unit.retryKey (Instant.ofMillis now) world.ledger
  respond := (world.operation executor.operation).respond
  calls := (world.operation executor.operation).calls.countP (·.unit = unit)
  rejection := (world.operation executor.operation).rejections.find? unit.id
  sources := Source.sights world.sources unit.id
  tale := world.tale (· = unit)
  shown := world.shown handle

/-- An executor without a breaker, whose delays draw no random numbers and whose counter is not
composed of others. -/
structure IsPlain (executor : Executor) : Prop where
  direct : executor.counter.isDirect = true
  unguarded : executor.breaker = none
  steady : executor.handler.policy.strategy.usesEntropy = false

/-- Whether the responses to a unit depend on nothing but how often it was invoked before. -/
def Predicts (unit : WorkUnit) (respond : List Call → WorkUnit → Response) : Prop :=
  ∀ calls others : List Call, calls.countP (·.unit = unit) = others.countP (·.unit = unit) →
    respond calls unit = respond others unit

variable {executor : Executor} {unit other : WorkUnit} {handle here there now time : Nat}
  {world first second : World}

/-- The sight after an entry in the journal that shows no status. -/
theorem sight_record {occurrence : Occurrence} (silent : occurrence.status? handle = none) :
    executor.sight unit handle now (world.record time occurrence) =
      { executor.sight unit handle now world with
        tale := (executor.sight unit handle now world).tale ++
          tellings (· = unit) time [occurrence] } := by
  rw [sight, World.tale_record, World.shown_record, silent, Option.map_none, Option.toList_none,
    List.append_nil]
  rfl

/-- An event that is reported on both sides keeps them alike. -/
theorem audit_of_sight
    (same : executor.sight unit here now first = executor.sight unit there now second)
    (event : AuditEvent) :
    executor.sight unit here now (first.audit time event) =
      executor.sight unit there now (second.audit time event) := by
  rw [World.audit, World.audit, sight_record rfl, sight_record rfl, same]

theorem sight_publish (status : Status) :
    executor.sight unit handle now (world.publish time handle status) =
      { executor.sight unit handle now world with
        shown := (executor.sight unit handle now world).shown ++ [(time, status)] } := by
  rw [sight, World.tale_publish, World.publish, World.shown_record, Occurrence.status?, if_pos rfl]
  rfl

/-- Statuses on other handles are out of sight. -/
theorem sight_publish_of_ne (apart : there ≠ handle) (status : Status) :
    executor.sight unit handle now (world.publish time there status) =
      executor.sight unit handle now world := by
  rw [sight, World.tale_publish, World.publish, World.shown_record, Occurrence.status?,
    if_neg apart, Option.map_none, Option.toList_none, List.append_nil]
  rfl

/-- Reports about other units are out of sight. -/
theorem sight_record_of_other {occurrence : Occurrence} {seen : Sight}
    (silent : occurrence.status? handle = none) (apart : occurrence.about (· = unit) = false)
    (before : executor.sight unit handle now world = seen) :
    executor.sight unit handle now (world.record time occurrence) = seen := by
  have nothing : tellings (· = unit) time [occurrence] = [] := by
    rw [tellings, List.filter_singleton, apart]
    rfl
  rw [sight_record silent, nothing, List.append_nil, before]

theorem sight_askCounter {α : Type} (request : Ledger → Served α) :
    executor.sight unit handle now (world.askCounter time request).2 =
      { executor.sight unit handle now world with
        count := executor.counter.sight unit.retryKey (Instant.ofMillis now)
          (request world.ledger).ledger } :=
  -- a fallback is reported without a unit
  World.foldl_view (executor.sight unit handle now)
    (fun _ _ => sight_record_of_other rfl rfl rfl) _ _

theorem sight_askSource {α : Type} (id : Nat) (kind : SourceRequest) (asker : WorkUnit)
    (request : Source → Except Failure α × Source) :
    executor.sight unit handle now (world.askSource time id kind asker request).2 =
      { executor.sight unit handle now world with
        sources := Function.update (executor.sight unit handle now world).sources id
          ((request ((world.sources.find? id).getD default)).2.sight unit.id)
        tale := (executor.sight unit handle now world).tale ++
          tellings (· = unit) time [.asked id kind asker] } := by
  have inserted := Source.sights_insert world.sources unit.id id
    (request ((world.sources.find? id).getD default)).2
  refine (sight_record rfl).trans ?_
  rw [show (executor.sight unit handle now world).sources = Source.sights world.sources unit.id
    from rfl, ← inserted]
  rfl

theorem sight_compensate (compensation : Compensation) (setback : Setback) :
    executor.sight unit handle now (world.compensate time compensation setback).2 =
      { executor.sight unit handle now world with
        sources := Source.sights (compensation.run setback world.sources).sources unit.id
        tale := (executor.sight unit handle now world).tale ++ tellings (· = unit) time
          ((compensation.run setback world.sources).notes.map (·.occurrence)) } := by
  -- the notes are reported one by one, and none of them is a status
  have noted (notes : List CompensationNote) (world : World) :
      executor.sight unit handle now (notes.foldl (fun world note =>
        world.record time note.occurrence) world) =
          { executor.sight unit handle now world with
            tale := (executor.sight unit handle now world).tale ++
              tellings (· = unit) time (notes.map (·.occurrence)) } := by
    induction notes generalizing world with
    | nil => rw [List.map_nil, tellings_nil, List.append_nil, List.foldl_nil]
    | cons note rest ih =>
      have silent : note.occurrence.status? handle = none := by cases note <;> rfl
      rw [List.foldl_cons, ih, sight_record silent, List.append_assoc, ← tellings_append]
      rfl
  rw [World.compensate_eq, noted]
  rfl

/-- The operation of the executor is invoked. -/
theorem sight_invoked (actor : WorkUnit) :
    executor.sight unit handle now (world.setOperation executor.operation
        ((world.operation executor.operation).invoke actor time).2) =
      { executor.sight unit handle now world with
        calls :=
          (executor.sight unit handle now world).calls + if actor = unit then 1 else 0 } := by
  have invoked : (world.setOperation executor.operation
      ((world.operation executor.operation).invoke actor time).2).operation executor.operation =
        ((world.operation executor.operation).invoke actor time).2 := by
    rw [World.operation, World.setOperation, Table.find?_insert_self]
    rfl
  have counted (calls : List Call) : (calls ++ [Call.mk actor time]).countP (·.unit = unit) =
      calls.countP (·.unit = unit) + if actor = unit then 1 else 0 := by
    rw [List.countP_append, List.countP_singleton]
    simp only [decide_eq_true_eq]
  rw [sight, invoked, Operation.invoke, counted]
  rfl

/-- The random numbers are out of sight. -/
theorem sight_entropy (world : World) (entropy : Entropy) :
    executor.sight unit handle now { world with entropy } =
      executor.sight unit handle now world := rfl

/-- What can be seen later depends on what can be seen now. -/
theorem sight_of_le {later : Nat}
    (same : executor.sight unit here now first = executor.sight unit there now second)
    (passed : now ≤ later) :
    executor.sight unit here later first = executor.sight unit there later second := by
  -- of all that can be seen only the count depends on the clock
  have reached : Instant.ofMillis now ≤ Instant.ofMillis later :=
    Nat.mul_le_mul_right Duration.nanosPerMilli passed
  have count := Counter.sight_of_le (congrArg Sight.count same) reached
  exact congrArg₂ (fun (sight : Sight) count => { sight with count }) same count

/-- What the sweepers do is out of sight. -/
theorem sight_elapse (sound : world.ledger.IsSound) (before after : Nat) :
    executor.sight unit handle after (world.elapse before after) =
      executor.sight unit handle after world :=
  congrArg (fun count => { executor.sight unit handle after world with count })
    (Counter.sight_elapse sound (Instant.ofMillis before) after)

/-! ## What functions of an executor do without a breaker -/

theorem invoke_of_isPlain (plain : executor.IsPlain) (actor : WorkUnit) (time : Nat)
    (world : World) :
    executor.invoke actor time world =
      (.running ((world.operation executor.operation).respond
          (world.operation executor.operation).calls actor),
        (world.setOperation executor.operation
          ((world.operation executor.operation).invoke actor time).2).record time
            (.invoked executor.operation actor)) := by
  simp only [invoke, World.acquire, plain.unguarded, Operation.invoke]

theorem isStillPending_of_attached {id : Nat} (attached : executor.source = some id)
    (actor : WorkUnit) (time : Nat) (world : World) :
    executor.isStillPending actor time world =
      ((((world.sources.find? id).getD default).isPending actor.id).toOption.getD true,
        (world.askSource time id .isPending actor fun source =>
          (source.isPending actor.id, source)).2) := by
  simp only [isStillPending, attached, World.askSource]
  cases ((world.sources.find? id).getD default).isPending actor.id <;> rfl

/-! ## Attempts on the unit -/

section Own

variable (plain : executor.IsPlain)
  (same : executor.sight unit here now first = executor.sight unit there now second)

include plain same

theorem resetCount_of_sight :
    executor.sight unit here now (executor.resetCount unit now first) =
      executor.sight unit there now (executor.resetCount unit now second) := by
  rw [resetCount, resetCount, sight_askCounter, sight_askCounter, same,
    Counter.sight_reset plain.direct (congrArg Sight.count same)]

theorem countAttempt_of_sight (prior : Nat) :
    (executor.countAttempt unit prior now first).1 =
        (executor.countAttempt unit prior now second).1 ∧
      executor.sight unit here now (executor.countAttempt unit prior now first).2 =
        executor.sight unit there now (executor.countAttempt unit prior now second).2 := by
  obtain ⟨answer, seen⟩ := Counter.increment_of_sight plain.direct (congrArg Sight.count same)
  rw [countAttempt_eq, countAttempt_eq, sight_askCounter, sight_askCounter, same, seen, number,
    number, answer]
  exact ⟨rfl, rfl⟩

omit plain in
theorem isStillPending_of_sight :
    (executor.isStillPending unit now first).1 = (executor.isStillPending unit now second).1 ∧
      executor.sight unit here now (executor.isStillPending unit now first).2 =
        executor.sight unit there now (executor.isStillPending unit now second).2 := by
  cases attached : executor.source with
  | none =>
    simpa only [isStillPending, attached, true_and] using same
  | some id =>
    have source := congrFun (congrArg Sight.sources same) id
    have pending := Source.isPending_of_sight source
    rw [isStillPending_of_attached attached, isStillPending_of_attached attached, pending,
      sight_askSource, sight_askSource, same]
    refine ⟨rfl, ?_⟩
    dsimp only
    rw [show ((first.sources.find? id).getD default).sight unit.id =
      ((second.sources.find? id).getD default).sight unit.id from source]

omit plain in
theorem acknowledge_of_sight :
    executor.sight unit here now (executor.acknowledge unit now first) =
      executor.sight unit there now (executor.acknowledge unit now second) := by
  rw [acknowledge, acknowledge]
  split
  · exact same
  · rename_i id _
    have source := congrFun (congrArg Sight.sources same) id
    rw [sight_askSource, sight_askSource, same, (Source.acknowledge_of_sight source).2]

theorem invoke_of_sight
    (predicts : Predicts unit (executor.sight unit there now second).respond) :
    (executor.invoke unit now first).1 = (executor.invoke unit now second).1 ∧
      executor.sight unit here now (executor.invoke unit now first).2 =
        executor.sight unit there now (executor.invoke unit now second).2 := by
  have respond := congrArg Sight.respond same
  rw [invoke_of_isPlain plain, invoke_of_isPlain plain, sight_record rfl, sight_record rfl,
    sight_invoked, sight_invoked, same]
  refine ⟨congrArg Begun.running ?_, rfl⟩
  rw [show (first.operation executor.operation).respond =
    (second.operation executor.operation).respond from respond]
  exact predicts _ _ (congrArg Sight.calls same)

theorem abandon_of_sight (attempts : Nat) (reason : String) :
    executor.sight unit here now (executor.abandon unit attempts reason now first).2 =
      executor.sight unit there now (executor.abandon unit attempts reason now second).2 := by
  simp only [abandon]
  exact audit_of_sight (resetCount_of_sight plain same) _

theorem complete_of_sight (attempts : Nat) :
    executor.sight unit here now (executor.complete unit attempts now first).2 =
      executor.sight unit there now (executor.complete unit attempts now second).2 := by
  simp only [complete, World.changeBreaker, plain.unguarded]
  exact acknowledge_of_sight (resetCount_of_sight plain same)

theorem giveUp_of_sight (setback : Setback) (about : setback.unit = unit) (attempts : Nat)
    (compensation : Option Compensation) :
    (executor.giveUp unit setback attempts compensation now first).1 =
        (executor.giveUp unit setback attempts compensation now second).1 ∧
      executor.sight unit here now
          (executor.giveUp unit setback attempts compensation now first).2 =
        executor.sight unit there now
          (executor.giveUp unit setback attempts compensation now second).2 := by
  subst about
  have given : executor.sight setback.unit here now
      ((executor.resetCount setback.unit now first).audit now
        (.gaveUp setback (compensation.map (·.name)))) =
      executor.sight setback.unit there now
        ((executor.resetCount setback.unit now second).audit now
          (.gaveUp setback (compensation.map (·.name)))) :=
    audit_of_sight (resetCount_of_sight plain same) _
  simp only [giveUp]
  generalize (executor.resetCount setback.unit now first).audit now _ = first at given ⊢
  generalize (executor.resetCount setback.unit now second).audit now _ = second at given ⊢
  cases compensation with
  | none => exact ⟨rfl, given⟩
  | some compensation =>
    obtain ⟨verdict, notes, sources⟩ :=
      Compensation.run_of_sights compensation (congrArg Sight.sources given)
    have compensated : executor.sight setback.unit here now
        (first.compensate now compensation setback).2 =
          executor.sight setback.unit there now (second.compensate now compensation setback).2 := by
      rw [sight_compensate, sight_compensate, given, notes, sources]
    have answer : (first.compensate now compensation setback).1 =
        (second.compensate now compensation setback).1 := verdict
    dsimp only
    generalize first.compensate now compensation setback = firstDone at compensated answer ⊢
    generalize second.compensate now compensation setback = secondDone at compensated answer ⊢
    obtain ⟨found, first⟩ := firstDone
    obtain ⟨also, second⟩ := secondDone
    obtain rfl : found = also := answer
    rcases found with failure | (_ | _)
    · exact ⟨rfl, audit_of_sight compensated _⟩
    · exact ⟨rfl, compensated⟩
    · exact ⟨rfl, compensated⟩

theorem handle_of_sight (fault : Fault) (prior : Nat) :
    (executor.handle unit fault prior now first).1 =
        (executor.handle unit fault prior now second).1 ∧
      executor.sight unit here now (executor.handle unit fault prior now first).2 =
        executor.sight unit there now (executor.handle unit fault prior now second).2 := by
  obtain ⟨attempt, counted⟩ := countAttempt_of_sight plain same prior
  simp only [handle, World.changeBreaker, plain.unguarded]
  generalize executor.countAttempt unit prior now first = firstCount at attempt counted ⊢
  generalize executor.countAttempt unit prior now second = secondCount at attempt counted ⊢
  obtain ⟨number, first⟩ := firstCount
  obtain ⟨also, second⟩ := secondCount
  obtain rfl : number = also := attempt
  dsimp only at counted ⊢
  rw [judge_setback, judge_setback]
  cases executor.isRetried fault number with
  | true =>
    -- a steady delay does not depend on the random numbers left
    have steady := fun entropy => RetryPolicy.delay_of_steady plain.steady (max number 1) entropy
    simp only [if_true, steady first.entropy, steady second.entropy, true_and]
    refine audit_of_sight ?_ _
    rw [sight_entropy first, sight_entropy second, counted]
  | false =>
    obtain ⟨result, given⟩ := giveUp_of_sight plain counted
      (executor.setback unit now fault number) rfl number executor.handler.compensation
    exact ⟨congrArg Sequel.done result, given⟩

/-- The first half of an attempt depends on the sight: what it comes to, and what can be seen
afterwards. -/
theorem beginAttempt_of_sight
    (predicts : Predicts unit (executor.sight unit there now second).respond) (prior : Nat) :
    (executor.beginAttempt unit prior now first).1 =
        (executor.beginAttempt unit prior now second).1 ∧
      executor.sight unit here now (executor.beginAttempt unit prior now first).2 =
        executor.sight unit there now (executor.beginAttempt unit prior now second).2 := by
  rw [beginAttempt, beginAttempt]
  split
  · exact invoke_of_sight plain same predicts
  · obtain ⟨pending, asked⟩ := isStillPending_of_sight same
    -- whatever the source answers, the operation stays predictable
    have respond : (executor.sight unit there now
        (executor.isStillPending unit now second).2).respond =
          (executor.sight unit there now second).respond := by
      have fixed := (executor.isStillPending_fixed unit prior now second ‹_›).1
      have operations : (executor.isStillPending unit now second).2.operations =
        second.operations := congrArg World.Holdings.operations fixed
      simp only [sight, World.operation, operations]
    generalize executor.isStillPending unit now first = firstAnswer at pending asked ⊢
    generalize executor.isStillPending unit now second = secondAnswer at pending asked respond ⊢
    obtain ⟨isPending, first⟩ := firstAnswer
    obtain ⟨also, second⟩ := secondAnswer
    obtain rfl : isPending = also := pending
    dsimp only at asked respond ⊢
    cases isPending with
    | true => exact invoke_of_sight plain asked (respond ▸ predicts)
    | false => exact ⟨rfl, abandon_of_sight plain asked prior "unit left its source"⟩

/-- The second half of an attempt depends on the sight. -/
theorem endAttempt_of_sight (prior : Nat) (outcome : Except Fault Unit) :
    (executor.endAttempt unit prior outcome now first).1 =
        (executor.endAttempt unit prior outcome now second).1 ∧
      executor.sight unit here now (executor.endAttempt unit prior outcome now first).2 =
        executor.sight unit there now (executor.endAttempt unit prior outcome now second).2 := by
  -- an outcome may be rejected, but on both sides alike
  have concluded : (first.operation executor.operation).conclude unit outcome =
      (second.operation executor.operation).conclude unit outcome := by
    have rejection := congrArg Sight.rejection same
    rw [Operation.conclude, Operation.conclude,
      show (first.operation executor.operation).rejections.find? unit.id =
        (second.operation executor.operation).rejections.find? unit.id from rejection]
  rw [endAttempt, endAttempt, concluded]
  cases (second.operation executor.operation).conclude unit outcome with
  | ok _ => exact ⟨rfl, complete_of_sight plain same (nextAttempt prior)⟩
  | error fault =>
    dsimp only
    split
    · simp only [World.changeBreaker, plain.unguarded]
      exact ⟨rfl, abandon_of_sight plain same (nextAttempt prior) "unit not found"⟩
    · exact handle_of_sight plain same fault prior

end Own

/-! ## Attempts on other units -/

section Other

variable (plain : executor.IsPlain) (apart : unit.IsApart other) (world) (time)

omit plain in
include apart in
/-- What is told about another unit is out of the tale. -/
theorem tellings_of_other {occurrences : List Occurrence}
    (about : ∀ occurrence ∈ occurrences, occurrence.about (· = unit) = decide (other = unit)) :
    tellings (· = unit) time occurrences = [] := by
  rw [tellings_of_about about, if_neg (by simpa using apart.ne)]

include plain apart

theorem sight_resetCount_of_other :
    executor.sight unit handle now (executor.resetCount other time world) =
      executor.sight unit handle now world := by
  obtain ⟨available, others, -⟩ :=
    executor.counter.reset_effect other.retryKey (Instant.ofMillis time) world.ledger
  -- the place of the unit's own key is none of the places of the other key
  rw [resetCount, sight_askCounter, Counter.sight_of_elsewhere available
    (others _ (Counter.home_notMem_places plain.direct apart.key.symm))]
  rfl

theorem sight_countAttempt_of_other (prior : Nat) :
    executor.sight unit handle now (executor.countAttempt other prior time world).2 =
      executor.sight unit handle now world := by
  obtain ⟨available, others⟩ :=
    executor.counter.increment_elsewhere other.retryKey (Instant.ofMillis time) world.ledger
  rw [countAttempt_eq, sight_askCounter, Counter.sight_of_elsewhere available
    (others _ (Counter.home_notMem_places plain.direct apart.key.symm))]
  rfl

omit plain in
theorem sight_isStillPending_of_other :
    executor.sight unit handle now (executor.isStillPending other time world).2 =
      executor.sight unit handle now world := by
  cases attached : executor.source with
  | none => simp only [isStillPending, attached]
  | some id =>
    rw [isStillPending_of_attached attached, sight_askSource,
      tellings_of_other time apart (List.forall_mem_singleton.2 rfl), List.append_nil]
    exact congrArg (fun sources => { executor.sight unit handle now world with sources })
      (Function.update_eq_self id _)

omit plain in
theorem sight_acknowledge_of_other :
    executor.sight unit handle now (executor.acknowledge other time world) =
      executor.sight unit handle now world := by
  rw [acknowledge]
  split
  · rfl
  · rename_i id _
    rw [sight_askSource, Source.sight_acknowledge_of_ne apart.id,
      tellings_of_other time apart (List.forall_mem_singleton.2 rfl), List.append_nil]
    exact congrArg (fun sources => { executor.sight unit handle now world with sources })
      (Function.update_eq_self id _)

theorem sight_invoke_of_other :
    executor.sight unit handle now (executor.invoke other time world).2 =
      executor.sight unit handle now world := by
  rw [invoke_of_isPlain plain]
  refine sight_record_of_other rfl (decide_eq_false apart.ne) ?_
  rw [sight_invoked, if_neg apart.ne]
  rfl

theorem sight_abandon_of_other (attempts : Nat) (reason : String) :
    executor.sight unit handle now (executor.abandon other attempts reason time world).2 =
      executor.sight unit handle now world := by
  simp only [abandon]
  exact sight_record_of_other rfl (decide_eq_false apart.ne)
    (sight_resetCount_of_other time world plain apart)

theorem sight_complete_of_other (attempts : Nat) :
    executor.sight unit handle now (executor.complete other attempts time world).2 =
      executor.sight unit handle now world := by
  simp only [complete, World.changeBreaker, plain.unguarded]
  rw [sight_acknowledge_of_other time _ apart, sight_resetCount_of_other time world plain apart]

theorem sight_giveUp_of_other (setback : Setback) (about : setback.unit = other) (attempts : Nat)
    (compensation : Option Compensation) :
    executor.sight unit handle now
        (executor.giveUp other setback attempts compensation time world).2 =
      executor.sight unit handle now world := by
  subst about
  have given : executor.sight unit handle now
      ((executor.resetCount setback.unit time world).audit time
        (.gaveUp setback (compensation.map (·.name)))) = executor.sight unit handle now world :=
    sight_record_of_other rfl (decide_eq_false apart.ne)
      (sight_resetCount_of_other time world plain apart)
  simp only [giveUp]
  generalize (executor.resetCount setback.unit time world).audit time _ = audited at given ⊢
  cases compensation with
  | none => exact given
  | some compensation =>
    have notes : ∀ occurrence ∈
        (compensation.run setback audited.sources).notes.map (·.occurrence),
        occurrence.about (· = unit) = decide (setback.unit = unit) := by
      intro occurrence member
      obtain ⟨note, noted, rfl⟩ := List.mem_map.1 member
      rw [about_occurrence,
        Compensation.setback_of_mem_notes setback compensation audited.sources note noted]
    have compensated : executor.sight unit handle now
        (audited.compensate time compensation setback).2 =
          executor.sight unit handle now world := by
      rw [sight_compensate, Compensation.sights_run_of_ne compensation audited.sources apart.id,
        tellings_of_other time apart notes, List.append_nil, ← given]
      rfl
    dsimp only
    generalize audited.compensate time compensation setback = done at compensated ⊢
    obtain ⟨verdict, after⟩ := done
    -- only a failed compensation is reported
    rcases verdict with failure | (_ | _)
    · exact sight_record_of_other rfl (decide_eq_false apart.ne) compensated
    · exact compensated
    · exact compensated

theorem sight_handle_of_other (fault : Fault) (prior : Nat) :
    executor.sight unit handle now (executor.handle other fault prior time world).2 =
      executor.sight unit handle now world := by
  have counted := @sight_countAttempt_of_other executor unit other handle now time world plain
    apart prior
  simp only [Executor.handle, World.changeBreaker, plain.unguarded]
  generalize executor.countAttempt other prior time world = count at counted ⊢
  obtain ⟨number, counting⟩ := count
  dsimp only at counted ⊢
  rw [judge_setback]
  cases executor.isRetried fault number with
  | true =>
    simp only [if_true]
    exact sight_record_of_other rfl (decide_eq_false apart.ne) counted
  | false =>
    exact (sight_giveUp_of_other time counting plain apart
      (executor.setback other time fault number) rfl number _).trans counted

/-- The first half of an attempt on another unit changes nothing in sight. -/
theorem sight_beginAttempt_of_other (prior : Nat) :
    executor.sight unit handle now (executor.beginAttempt other prior time world).2 =
      executor.sight unit handle now world := by
  rw [beginAttempt]
  split
  · exact sight_invoke_of_other time world plain apart
  · have asked := @sight_isStillPending_of_other executor unit other handle now time world apart
    generalize executor.isStillPending other time world = answer at asked ⊢
    obtain ⟨isPending, asking⟩ := answer
    cases isPending with
    | true => exact (sight_invoke_of_other time asking plain apart).trans asked
    | false =>
      have abandoned := @sight_abandon_of_other executor unit other handle now time asking plain
        apart prior "unit left its source"
      exact abandoned.trans asked

/-- The second half of an attempt on another unit changes nothing in sight. -/
theorem sight_endAttempt_of_other (prior : Nat) (outcome : Except Fault Unit) :
    executor.sight unit handle now (executor.endAttempt other prior outcome time world).2 =
      executor.sight unit handle now world := by
  rw [endAttempt]
  cases (world.operation executor.operation).conclude other outcome with
  | ok _ => exact sight_complete_of_other time world plain apart (nextAttempt prior)
  | error fault =>
    dsimp only
    split
    · simp only [World.changeBreaker, plain.unguarded]
      exact sight_abandon_of_other time world plain apart _ _
    · exact sight_handle_of_other time world plain apart fault prior

end Other

end Executor

end Resilience
