import Resilience.Proofs.Executor.Substitution

/-!
# Scenes with other compensations

The same moves are made in two scenes, by executors that differ in their compensations only: where
one of them fails, its counterpart in the other scene may let the failure propagate. Then the scenes
stay alike whatever the moves are. They show the same statuses, and whoever asks for a result gets
the same in both. Counterparts are stand-ins of which nothing is asked about the journal.

## Main definitions

* `Job.Likewise`, `Move.Likewise` — the same jobs and moves, of counterparts
* `Scene.Likewise` — scenes in which everything but the journal is the same, up to counterparts
* `Substitution.lenient` — counterparts as stand-ins

## Main statements

* `Scene.Likewise.play` — moves of counterparts keep scenes alike
* `Scene.Likewise.awaited_eq`, `wait_eq`, `execute_eq`, `process_eq` — everybody gets the same
-/

namespace Resilience

/-! ## Counterparts -/

/-- Lifecycles of counterparts. -/
structure Lifecycle.Likewise (first second : Lifecycle) : Prop where
  executor : first.executor.Likewise second.executor
  unit : first.unit = second.unit
  handle : first.handle = second.handle

/-- The same part of an attempt in lifecycles of counterparts. -/
inductive Job.Likewise : Job → Job → Prop
  | attempt {first second : Lifecycle} (alike : first.Likewise second) (prior : Nat) :
    Likewise (.attempt first prior) (.attempt second prior)
  | conclude {first second : Lifecycle} (alike : first.Likewise second) (prior : Nat)
      (outcome : Except Fault Unit) :
    Likewise (.conclude first prior outcome) (.conclude second prior outcome)

/-- Runs in which everything but the journal is the same, up to counterparts. -/
abbrev Universe.Likewise (first second : Universe) : Prop :=
  Run.Matches World.Coincide Job.Likewise first second

/-- Calls of counterparts. -/
structure Visit.Likewise (first second : Visit) : Prop where
  executor : first.executor.Likewise second.executor
  unit : first.unit = second.unit
  outcome : first.outcome = second.outcome

/-- The same moves, of counterparts. Changes from outside are the same whatever the journal says. -/
inductive Move.Likewise : Move → Move → Prop
  | loop (move : LoopMove) : Likewise (.loop move) (.loop move)
  | submit {first second : Executor} (alike : first.Likewise second) (unit : WorkUnit) :
    Likewise (.submit first unit) (.submit second unit)
  | enter {first second : Executor} (alike : first.Likewise second) (unit : WorkUnit) :
    Likewise (.enter first unit) (.enter second unit)
  | leave (index : Nat) : Likewise (.leave index) (.leave index)
  | shutDown (scheduler : Nat) : Likewise (.shutDown scheduler) (.shutDown scheduler)
  | intervene {change other : World → World}
      (same : ∀ {first second : World}, first.Coincide second →
        (change first).Coincide (other second)) :
    Likewise (.intervene change) (.intervene other)

/-- Scenes in which everything but the journal is the same, up to counterparts. -/
structure Scene.Likewise (first second : Scene) : Prop where
  run : Universe.Likewise first.run second.run
  visits : first.visits.Forall₂ Visit.Likewise second.visits
  handles : first.handles.Forall₂ Lifecycle.Likewise second.handles
  returned : first.returned = second.returned

/-! ## Counterparts as stand-ins -/

/-- Counterparts as stand-ins, whatever the journals tell. -/
def Substitution.lenient : Substitution where
  compensations := Compensation.Likewise
  journals _ _ := True
  refl _ := trivial
  trans _ _ := trivial
  append _ _ := trivial
  giveUp alike executor unit setback attempts now world := by
    obtain ⟨result, coincide⟩ :=
      @Executor.giveUp_likewise unit now world executor setback attempts _ _ (.some alike)
    exact ⟨result, coincide, trivial⟩

open Substitution (lenient)

theorem World.coincide_eq_lenient : Coincide = lenient.Worlds := by
  funext first second
  exact propext ⟨fun same => ⟨same, trivial⟩, fun worlds => worlds.coincide⟩

theorem Executor.likewise_eq_lenient : Executor.Likewise = lenient.Executors := by
  funext first second
  refine propext ⟨fun alike => ?_, fun executors => ?_⟩
  · cases alike with
    | compensatedBy alike => exact .compensatedBy alike
  · cases executors with
    | compensatedBy alike => exact .compensatedBy alike

theorem Lifecycle.likewise_eq_lenient : Lifecycle.Likewise = lenient.Lifecycles := by
  funext first second
  refine propext ⟨fun alike => ?_, fun lifecycles => ?_⟩
  · exact ⟨Executor.likewise_eq_lenient ▸ alike.executor, alike.unit, alike.handle⟩
  · exact ⟨Executor.likewise_eq_lenient ▸ lifecycles.executor, lifecycles.unit, lifecycles.handle⟩

theorem Job.likewise_eq_lenient : Job.Likewise = lenient.Jobs := by
  funext first second
  refine propext ⟨fun alike => ?_, fun jobs => ?_⟩
  · cases alike with
    | attempt alike prior => exact .attempt (Lifecycle.likewise_eq_lenient ▸ alike) prior
    | conclude alike prior outcome =>
      exact .conclude (Lifecycle.likewise_eq_lenient ▸ alike) prior outcome
  · cases jobs with
    | attempt lifecycles prior => exact .attempt (Lifecycle.likewise_eq_lenient ▸ lifecycles) prior
    | conclude lifecycles prior outcome =>
      exact .conclude (Lifecycle.likewise_eq_lenient ▸ lifecycles) prior outcome

theorem Universe.likewise_eq_lenient : Universe.Likewise = lenient.Universes := by
  funext first second
  rw [Universe.Likewise, World.coincide_eq_lenient, Job.likewise_eq_lenient]

theorem Visit.likewise_eq_lenient : Visit.Likewise = lenient.Visits := by
  funext first second
  refine propext ⟨fun alike => ?_, fun visits => ?_⟩
  · exact ⟨Executor.likewise_eq_lenient ▸ alike.executor, alike.unit, alike.outcome⟩
  · exact ⟨Executor.likewise_eq_lenient ▸ visits.executor, visits.unit, visits.outcome⟩

theorem Move.Likewise.lenient {first second : Move} (alike : first.Likewise second) :
    lenient.Moves first second := by
  cases alike with
  | loop move => exact .loop move
  | submit alike unit => exact .submit (Executor.likewise_eq_lenient ▸ alike) unit
  | enter alike unit => exact .enter (Executor.likewise_eq_lenient ▸ alike) unit
  | leave index => exact .leave index
  | shutDown scheduler => exact .shutDown scheduler
  | intervene same => exact .intervene same

theorem Scene.likewise_iff_lenient {first second : Scene} :
    first.Likewise second ↔ lenient.Scenes first second := by
  constructor
  · intro scenes
    exact ⟨Universe.likewise_eq_lenient ▸ scenes.run, Visit.likewise_eq_lenient ▸ scenes.visits,
      Lifecycle.likewise_eq_lenient ▸ scenes.handles, scenes.returned⟩
  · intro scenes
    exact ⟨Universe.likewise_eq_lenient ▸ scenes.run, Visit.likewise_eq_lenient ▸ scenes.visits,
      Lifecycle.likewise_eq_lenient ▸ scenes.handles, scenes.returned⟩

/-! ## Scenes -/

namespace Scene.Likewise

variable {first second : Scene}

/-- Scenes stay alike whatever the moves are. -/
theorem play (scenes : first.Likewise second) {moves others : List Move}
    (all : moves.Forall₂ Move.Likewise others) :
    (first.play moves).Likewise (second.play others) :=
  likewise_iff_lenient.2
    ((likewise_iff_lenient.1 scenes).play (all.imp fun _ _ moves => moves.lenient))

/-- Whoever looks at a handle until it gives something gets the same. -/
theorem awaited_eq (scenes : first.Likewise second) (handle : Nat) {looks others : List (List Move)}
    (all : looks.Forall₂ (List.Forall₂ Move.Likewise) others) :
    first.awaited handle looks = second.awaited handle others :=
  (likewise_iff_lenient.1 scenes).awaited_eq handle
    (all.imp fun _ _ each => each.imp fun _ _ moves => moves.lenient)

end Scene.Likewise

/-- Whoever waits for a handle in the foreground gets the same. -/
theorem World.wait_eq {run other : Universe} (runs : Universe.Likewise run other)
    (turns handle : Nat) : (wait turns handle run).1 = (wait turns handle other).1 := by
  rw [Universe.likewise_eq_lenient] at runs
  exact (Substitution.Universes.wait runs turns handle).1

namespace Executor.Likewise

variable {first second : Executor} {run other : Universe}

/-- Whoever has a unit executed gets the same. -/
theorem execute_eq (alike : first.Likewise second) (runs : Universe.Likewise run other)
    (turns : Nat) (unit : WorkUnit) :
    (first.execute turns unit run).1 = (second.execute turns unit other).1 := by
  rw [likewise_eq_lenient] at alike
  rw [Universe.likewise_eq_lenient] at runs
  exact (alike.execute runs turns unit).1

/-- Whoever processes a unit gets the same. -/
theorem process_eq (alike : first.Likewise second) (runs : Universe.Likewise run other)
    (turns : Nat) (unit : WorkUnit) :
    (first.process turns unit run).1 = (second.process turns unit other).1 := by
  rw [likewise_eq_lenient] at alike
  rw [Universe.likewise_eq_lenient] at runs
  exact (alike.process runs turns unit).1

end Executor.Likewise

end Resilience
