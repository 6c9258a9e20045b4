import Resilience.Executor.Lifecycle
import Resilience.Proofs.Executor.Tale
import Mathlib.Logic.Relation

/-!
# The story of a lifecycle

A lifecycle waits for an attempt, has an operation running, or has ended. Between its own attempts
the world goes on: other lifecycles make attempts, statuses are published, time passes, and somebody
may change whatever he likes except the journal and the published statuses. The story of a lifecycle
tells in which phases it is and which worlds it finds, one attempt after the other, with the times
at which they are made.

## Main definitions

* `Deed`, `World.perform` — what happens to a world
* `Surroundings`, `Deed.Aside` — what happens besides the attempts of a lifecycle
* `Phase` — where a lifecycle is
* `Story.Step`, `Story` — how a lifecycle and its world go on

## Main statements

* `Deed.Aside.tale` — what happens aside adds nothing to the tale of a unit
* `Story.aside` — the story of one lifecycle happens aside in the stories of the others
-/

namespace Resilience

/-! ## Deeds -/

/-- Something that happens to a world. -/
inductive Deed where
  | begin (executor : Executor) (unit : WorkUnit) (prior now : Nat)
  | conclude (executor : Executor) (unit : WorkUnit) (prior : Nat) (outcome : Except Fault Unit)
    (now : Nat)
  | publish (now handle : Nat) (status : Status)
  | elapse (before after : Nat)
  | setScheduler (id : Nat) (scheduler : Scheduler)
  /-- A change from outside, of anything but the journal and the statuses. -/
  | alter (change : World → World)

/-- A world changed from outside. The journal and the statuses stay as they are. -/
def World.alter (world : World) (change : World → World) : World :=
  { change world with journal := world.journal, statuses := world.statuses }

/-- The world after a deed. -/
def World.perform (world : World) : Deed → World
  | .begin executor unit prior now => (executor.beginAttempt unit prior now world).2
  | .conclude executor unit prior outcome now =>
    (executor.endAttempt unit prior outcome now world).2
  | .publish now handle status => world.publish now handle status
  | .elapse before after => world.elapse before after
  | .setScheduler id scheduler =>
    { world with schedulers := world.schedulers.insert id scheduler }
  | .alter change => world.alter change

/-- The world after several deeds. -/
def World.performAll (world : World) (deeds : List Deed) : World := deeds.foldl perform world

theorem World.performAll_append (world : World) (early late : List Deed) :
    world.performAll (early ++ late) = (world.performAll early).performAll late :=
  List.foldl_append

/-- Who else is there: the units of a lifecycle of interest, the executors that work on other
units, the schedulers that may be shut down, and the changes from outside. -/
structure Surroundings where
  mine : WorkUnit → Bool
  plays : Executor → WorkUnit → Prop
  shuts : Nat → Prop
  alters : (World → World) → Prop

/-- A deed that is no attempt on a unit of interest. -/
def Deed.Aside (surroundings : Surroundings) : Deed → Prop
  | begin executor unit _ _ | conclude executor unit _ _ _ =>
    surroundings.mine unit = false ∧ surroundings.plays executor unit
  | setScheduler id _ => surroundings.shuts id
  | alter change => surroundings.alters change
  | publish .. | elapse .. => True

/-- What happens aside adds nothing to the tale. -/
theorem Deed.Aside.tale {surroundings : Surroundings} {deed : Deed}
    (aside : deed.Aside surroundings) (world : World) :
    (world.perform deed).tale surroundings.mine = world.tale surroundings.mine := by
  cases deed with
  | begin executor unit prior now => exact Executor.tale_beginAttempt_of_other aside.1
  | conclude executor unit prior outcome now => exact Executor.tale_endAttempt_of_other aside.1 _
  | publish now handle status => exact world.tale_publish _ now handle status
  | elapse | setScheduler | alter => rfl

/-! ## Phases -/

/-- Where a lifecycle is. -/
inductive Phase where
  | absent
  /-- An attempt will begin, with the number handed over from the attempt before. -/
  | waiting (prior due : Nat)
  /-- The operation is running in the background, and ends at a known time. -/
  | running (prior : Nat) (outcome : Except Fault Unit) (due : Nat)
  /-- The operation of the first attempt is running in the foreground. -/
  | calling (outcome : Except Fault Unit)
  | ended (result : Except Failure Completion)
  /-- A shutdown has cut the lifecycle off, in an invocation or before one. -/
  | cutOff (invoked : Bool)

namespace Phase

/-- Whether a lifecycle has been started and has not been cut off. -/
def isRegular : Phase → Bool
  | absent | cutOff _ => false
  | waiting .. | running .. | calling _ | ended _ => true

/-- Whether a shutdown has cut a lifecycle off. -/
def isCutOff : Phase → Bool
  | cutOff _ => true
  | absent | waiting .. | running .. | calling _ | ended _ => false

theorem ne_of_isRegular {phase : Phase} (regular : phase.isRegular = true) :
    phase ≠ absent ∧ phase.isCutOff = false := by
  constructor
  · rintro rfl
    cases regular
  · cases phase <;> first | rfl | cases regular

/-- The time at which a lifecycle in the background goes on. -/
def due? : Phase → Option Nat
  | waiting _ due | running _ _ due => some due
  | absent | calling _ | ended _ | cutOff _ => none

/-- The phase after the first half of an attempt. -/
def ofBegun (prior now : Nat) : Begun → Phase
  | .ended result => ended result
  | .running response =>
    running prior response.outcome (now + response.latency.waitMillis)

/-- The phase after the first half of an attempt in the foreground. -/
def ofEntered : Begun → Phase
  | .ended result => ended result
  | .running response => calling response.outcome

/-- The phase after the second half of an attempt. -/
def ofSequel (now : Nat) : Sequel → Phase
  | .done result => ended result
  | .retry attempt delay => waiting attempt (now + delay.waitMillis)

end Phase

namespace Story

/-- How a lifecycle and its world go on: something happens aside, or a half of an attempt is made,
or the lifecycle ends for want of a scheduler. -/
inductive Step (surroundings : Surroundings) (executor : Executor) (unit : WorkUnit) :
    Phase × World → Phase × World → Prop
  | aside {phase : Phase} {world : World} (deed : Deed) (aside : deed.Aside surroundings) :
    Step surroundings executor unit (phase, world) (phase, world.perform deed)
  | submitted {world : World} (now : Nat) :
    Step surroundings executor unit (.absent, world) (.waiting 0 now, world)
  | begun {world : World} (prior now : Nat) :
    Step surroundings executor unit (.waiting prior now, world)
      (.ofBegun prior now (executor.beginAttempt unit prior now world).1,
        (executor.beginAttempt unit prior now world).2)
  | concluded {world : World} (prior now : Nat) (outcome : Except Fault Unit) :
    Step surroundings executor unit (.running prior outcome now, world)
      (.ofSequel now (executor.endAttempt unit prior outcome now world).1,
        (executor.endAttempt unit prior outcome now world).2)
  /-- The first attempt begins in the foreground. -/
  | entered {world : World} (now : Nat) :
    Step surroundings executor unit (.absent, world)
      (.ofEntered (executor.beginAttempt unit 0 now world).1,
        (executor.beginAttempt unit 0 now world).2)
  | left {world : World} (now : Nat) (outcome : Except Fault Unit) :
    Step surroundings executor unit (.calling outcome, world)
      (.ofSequel now (executor.endAttempt unit 0 outcome now world).1,
        (executor.endAttempt unit 0 outcome now world).2)
  | refused {world : World} (prior due : Nat)
      (shut : (world.scheduler executor.scheduler).isShutDown = true) :
    Step surroundings executor unit (.waiting prior due, world)
      (.ended (.error .schedulerShutDown), world)
  | cutWaiting {world : World} (prior due : Nat) :
    Step surroundings executor unit (.waiting prior due, world) (.cutOff false, world)
  | cutRunning {world : World} (prior : Nat) (outcome : Except Fault Unit) (due : Nat) :
    Step surroundings executor unit (.running prior outcome due, world) (.cutOff true, world)

end Story

/-- The steps of a lifecycle from one phase and world to another. -/
abbrev Story (surroundings : Surroundings) (executor : Executor) (unit : WorkUnit) :
    Phase × World → Phase × World → Prop :=
  Relation.ReflTransGen (Story.Step surroundings executor unit)

/-- Surroundings in which nobody else works or changes anything. -/
def Surroundings.nobody : Surroundings :=
  ⟨fun _ => true, fun _ _ => False, fun _ => False, fun _ => False⟩

namespace Story

variable {surroundings : Surroundings} {executor player : Executor} {unit other : WorkUnit}
  {before after : Phase × World}

/-- A step of one lifecycle happens aside in the stories of the others. -/
theorem Step.aside_of_other (step : Step .nobody player other before after)
    (apart : surroundings.mine other = false) (plays : surroundings.plays player other)
    (phase : Phase) : Story surroundings executor unit (phase, before.2) (phase, after.2) := by
  cases step with
  | aside deed quiet =>
    have also : deed.Aside surroundings := by
      cases deed with
      | begin | conclude => exact quiet.2.elim
      | setScheduler | alter => exact quiet.elim
      | publish | elapse => trivial
    exact .single (.aside deed also)
  | begun prior now => exact .single (.aside (.begin player other prior now) ⟨apart, plays⟩)
  | concluded prior now outcome =>
    exact .single (.aside (.conclude player other prior outcome now) ⟨apart, plays⟩)
  | entered now => exact .single (.aside (.begin player other 0 now) ⟨apart, plays⟩)
  | left now outcome =>
    exact .single (.aside (.conclude player other 0 outcome now) ⟨apart, plays⟩)
  | submitted | refused | cutWaiting | cutRunning => exact .refl

/-- The story of one lifecycle happens aside in the stories of the others. -/
theorem aside (story : Story .nobody player other before after)
    (apart : surroundings.mine other = false) (plays : surroundings.plays player other)
    (phase : Phase) : Story surroundings executor unit (phase, before.2) (phase, after.2) := by
  induction story with
  | refl => exact .refl
  | tail _ step ih => exact ih.trans (step.aside_of_other apart plays phase)

/-- A lifecycle that was cut off takes no more steps, so all that happens happens aside. -/
theorem holds_of_cutOff {holds : World → Prop}
    (aside : ∀ (world : World) (deed : Deed), deed.Aside surroundings → holds world →
      holds (world.perform deed))
    (story : Story surroundings executor unit before after) (cut : before.1.isCutOff = true)
    (first : holds before.2) : holds after.2 := by
  suffices both : after.1.isCutOff = true ∧ holds after.2 from both.2
  induction story with
  | refl => exact ⟨cut, first⟩
  | tail _ step ih =>
    obtain ⟨still, held⟩ := ih
    cases step with
    | aside deed quiet => exact ⟨still, aside _ deed quiet held⟩
    | submitted | begun | concluded | entered | left | refused | cutWaiting | cutRunning =>
      cases still

/-- What happens aside is part of every story. -/
theorem of_deeds {deeds : List Deed} (asides : ∀ deed ∈ deeds, deed.Aside surroundings)
    (phase : Phase) (world : World) :
    Story surroundings executor unit (phase, world) (phase, world.performAll deeds) := by
  induction deeds generalizing world with
  | nil => exact .refl
  | cons deed deeds ih =>
    exact .head (.aside deed (asides deed List.mem_cons_self))
      (ih (fun other member => asides other (List.mem_cons_of_mem _ member)) _)

end Story

end Resilience
