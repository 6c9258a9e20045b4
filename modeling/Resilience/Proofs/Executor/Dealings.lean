import Resilience.Executor.Lifecycle
import Resilience.Proofs.Executor.Tale

/-!
# Dealings with operations

All that passes between a lifecycle and its operation are invocations and what they return. Around
them much can go wrong: a counter cannot be reached or has no valid time to live, a source does not
answer, a compensation fails. Nobody who asks for the result of a lifecycle learns of that. He is
told how the lifecycle was completed, what the last invocation returned, that an attempt was not
admitted, or that the scheduler was shut down.

## Main definitions

* `Dealing`, `Dealing.OneByOne` — invocations and what they return, one after the other
* `Told` — what can be told about a unit after some dealings
* `Job.dealings` — the dealings in the turn of a job

## Main statements

* `Executor.told_of_begun`, `Executor.told_of_done` — attempts come to nothing else
-/

namespace Resilience

/-- What passes between a lifecycle and its operation. -/
inductive Dealing where
  /-- An invocation begins that is to come to an outcome. -/
  | invoked (outcome : Except Fault Unit)
  /-- An invocation ends. -/
  | returned (answer : Except Fault Unit)

/-- Dealings about a unit in which every invocation returns before the next one begins. The last one
may still be under way, and then it is known what it is to come to. -/
inductive Dealing.OneByOne (unit : WorkUnit) : List Dealing → Option (Except Fault Unit) → Prop
  | nil : OneByOne unit [] none
  | invoked {dealings : List Dealing} (before : OneByOne unit dealings none)
      (outcome : Except Fault Unit) : OneByOne unit (dealings ++ [.invoked outcome]) (some outcome)
  /-- The operation returns the outcome that it was to come to, or it rejects the unit by now. -/
  | returned {dealings : List Dealing} {outcome : Except Fault Unit}
      (before : OneByOne unit dealings (some outcome)) (operation : Operation) :
    OneByOne unit (dealings ++ [.returned (operation.conclude unit outcome)]) none

/-- What can be told about a unit after some dealings with its operation. If the operation failed
for good, that is the fault which the last invocation has returned. -/
inductive Told (unit : WorkUnit) (dealings : List Dealing) : Except Failure Completion → Prop
  | ok (completion : Completion) : Told unit dealings (.ok completion)
  | exhausted (attempts : Nat) {fault : Fault}
      (last : dealings.getLast? = some (.returned (.error fault))) :
    Told unit dealings (.error (.exhausted unit.action attempts fault))
  | denied {failure : Failure} (refused : failure.isDenied = true) :
    Told unit dealings (.error failure)
  | shutDown : Told unit dealings (.error .schedulerShutDown)

/-- What was told about the last dealings is told about all of them. -/
theorem Told.of_last {unit : WorkUnit} {early late : List Dealing}
    {result : Except Failure Completion} (told : Told unit late result) :
    Told unit (early ++ late) result := by
  cases told with
  | ok completion => exact .ok completion
  | exhausted attempts last => exact .exhausted attempts (by rw [List.getLast?_append, last]; rfl)
  | denied refused => exact .denied refused
  | shutDown => exact .shutDown

namespace Executor

variable (executor : Executor) (unit : WorkUnit)

/-- What an invocation returns when it ends. -/
def answer (outcome : Except Fault Unit) (world : World) : Except Fault Unit :=
  (world.operation executor.operation).conclude unit outcome

variable {executor : Executor} {unit : WorkUnit} {prior now : Nat} {world : World}
  {dealings : List Dealing} {result : Except Failure Completion}

theorem Opening.told {occurrences : List Occurrence} {after : World.Holdings}
    (opening : executor.Opening unit prior now world (.ended result) occurrences after) :
    Told unit dealings result := by
  cases opening with
  | denied refused => exact .denied refused
  | gone => exact .ok _

/-- An attempt that ends before its invocation is not admitted, or the unit has gone. -/
theorem told_of_begun (ended : (executor.beginAttempt unit prior now world).1 = .ended result) :
    Told unit dealings result := by
  obtain ⟨_, opening, -⟩ := executor.opening_beginAttempt unit prior now world
  rw [ended] at opening
  exact opening.told

theorem Closing.told {concluded : Except Fault Unit} {occurrences : List Occurrence}
    {before after : World.Holdings}
    (closing : executor.Closing unit prior now concluded before (.done result) occurrences after) :
    Told unit [.returned concluded] result := by
  cases closing with
  | completed | vanished => exact .ok _
  | gaveUp sources failed =>
    rw [result_givenUp]
    split
    · exact .ok _
    · exact .exhausted _ (congrArg (fun answer => some (Dealing.returned answer)) failed)

/-- An attempt that ends a lifecycle tells nothing but what the invocation has returned. -/
theorem told_of_done {outcome : Except Fault Unit}
    (done : (executor.endAttempt unit prior outcome now world).1 = .done result) :
    Told unit [.returned (executor.answer unit outcome world)] result := by
  obtain ⟨_, closing, -⟩ := executor.closing_endAttempt unit prior now world outcome
  rw [done] at closing
  exact closing.told

end Executor

/-! ## Turns -/

/-- What the invocation under way is to come to while a job waits for its turn. -/
def Job.underWay? : Job → Option (Except Fault Unit)
  | attempt .. => none
  | conclude _ _ outcome => some outcome

/-- What passes between a lifecycle and its operation in the turn of a job. -/
def Job.dealings (now : Nat) (world : World) : Job → List Dealing
  | attempt lifecycle prior =>
    let world := world.publish now lifecycle.handle (.inProgress (Executor.nextAttempt prior))
    let (begun, world) := lifecycle.executor.beginAttempt lifecycle.unit prior now world
    match begun with
    | .ended _ => []
    | .running response =>
      if response.latency = .zero then
        [.invoked response.outcome,
          .returned (lifecycle.executor.answer lifecycle.unit response.outcome world)]
      else [.invoked response.outcome]
  | conclude lifecycle _ outcome =>
    [.returned (lifecycle.executor.answer lifecycle.unit outcome world)]

end Resilience
