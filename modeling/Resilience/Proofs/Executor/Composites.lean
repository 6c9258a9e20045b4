import Resilience.Proofs.Executor.Endings
import Resilience.Proofs.Executor.Substitution
import Resilience.Proofs.Flattening

/-!
# Composites among executors

A composite runs its leaves and nothing else, and each failure is reported once: that of a part by
the composite around it, under the name of the part, and that of the whole compensation by the
executor that gives the unit up. A composite never fails, so no report ever names one. Composites
with the same leaves cannot be told apart, and an action that is alone in a composite can be told
from the action itself only by the name under which a unit was given up.

## Main definitions

* `LeafRun.occurrences`, `LeafRun.report?` — what the journal tells of a leaf
* `Compensation.RunsLeaves` — what a composite comes to
* `Compensation.Indistinct`, `Compensation.Alone` — compensations that stand in for others
* `World.anonymous` — a world in which compensations are not named when a unit is given up
* `World.failures` — the reports of compensations that failed

## Main statements

* `World.compensate_composite` — the world after a composite
* `Executor.giveUp_eq_recordAll` — what giving up a unit comes to
* `composites_flatten` — composites run their leaves, and nesting is not noticed
-/

namespace Resilience

/-! ## Records -/

namespace World

/-- Records several occurrences at one time. -/
def recordAll (world : World) (now : Nat) (occurrences : List Occurrence) : World :=
  { world with journal := world.journal ++ (occurrences.map (JournalEntry.mk now)).toArray }

variable (world : World) (now : Nat)

theorem foldl_record (occurrences : List Occurrence) :
    occurrences.foldl (·.record now ·) world = world.recordAll now occurrences := by
  induction occurrences generalizing world with
  | nil => simp [recordAll]
  | cons occurrence occurrences ih =>
    rw [List.foldl_cons, ih]
    simp [recordAll, record]

theorem events_eq : world.events = world.journal.toList.filterMap (·.occurrence.event?) := by
  refine List.filterMap_congr fun entry _ => ?_
  cases entry.occurrence with
  | audited | invoked | asked | compensated | published => rfl

theorem events_recordAll (occurrences : List Occurrence) :
    (world.recordAll now occurrences).events =
      world.events ++ occurrences.filterMap (·.event?) := by
  rw [events_eq, events_eq, recordAll, Array.toList_append, List.filterMap_append,
    List.filterMap_map]
  rfl

/-- What a compensation does, with its notes as records. -/
theorem compensate_eq_recordAll (compensation : Compensation) (setback : Setback) :
    world.compensate now compensation setback =
      ((compensation.run setback world.sources).verdict,
        { world with sources := (compensation.run setback world.sources).sources }.recordAll now
          ((compensation.run setback world.sources).notes.map CompensationNote.occurrence)) := by
  rw [compensate_eq, ← foldl_record, List.foldl_map]

end World

/-! ## Composites run their leaves -/

namespace LeafRun

variable (setback : Setback)

/-- The report of a leaf that failed. -/
def report? (run : LeafRun) : Option AuditEvent :=
  run.failure?.map (.compensationFailed setback run.leaf.name)

/-- What the journal tells of a leaf: that it ran, and a report if it failed. -/
def occurrences (run : LeafRun) : List Occurrence :=
  .compensated run.leaf setback :: (run.report? setback).toList.map .audited

theorem map_occurrence_notes (run : LeafRun) :
    (run.notes setback).map (·.occurrence) = run.occurrences setback := by
  rw [notes, occurrences, report?]
  cases run.failure? with
  | none | some => rfl

theorem filterMap_event?_occurrences (run : LeafRun) :
    (run.occurrences setback).filterMap (·.event?) = (run.report? setback).toList := by
  rw [occurrences]
  cases run.report? setback with
  | none | some => rfl

end LeafRun

/-- The journal after a composite tells of its leaves, one after the other, and its verdict and the
sources are theirs. Everything else is as before. -/
theorem World.compensate_composite (world : World) (now : Nat) (parts : List Compensation)
    (setback : Setback) :
    let leaves := Compensation.runLeaves setback (Compensation.leavesOfParts parts) world.sources
    world.compensate now (.composite parts) setback =
      (.ok (.of (leaves.1.any LeafRun.recovered)),
        { world with sources := leaves.2 }.recordAll now
          (leaves.1.flatMap (LeafRun.occurrences setback))) := by
  intro leaves
  rw [compensate_eq_recordAll, Compensation.run_composite, Compensation.together]
  dsimp only
  rw [Bool.false_or, List.map_flatMap]
  simp only [LeafRun.map_occurrence_notes]
  rfl

namespace Compensation

/-- What a composite comes to for a failed attempt, in terms of its leaves, of what each of them has
come to and of the sources that they have left. -/
structure RunsLeaves (parts : List Compensation) (setback : Setback) (now : Nat) (world : World)
    (runs : List LeafRun) (sources : Table Nat Source) (answer : Except Failure Verdict × World) :
    Prop where
  leaves : ∀ run ∈ runs, run.leaf.size? = none
  /-- Each leaf runs once, from left to right. -/
  once : runs.map LeafRun.leaf = leavesOfParts parts
  succeeds : ∀ failure, answer.1 ≠ .error failure
  recovers : answer.1 = .ok .recovered ↔ ∃ run ∈ runs, run.verdict = .ok .recovered
  /-- The journal tells of every leaf and of nothing else. -/
  journal : answer.2 =
    { world with sources }.recordAll now (runs.flatMap (LeafRun.occurrences setback))
  /-- Each leaf that fails is reported, and nothing else is. -/
  reports : answer.2.events = world.events ++ runs.filterMap (LeafRun.report? setback)

theorem runsLeaves (parts : List Compensation) (setback : Setback) (now : Nat) (world : World) :
    RunsLeaves parts setback now world (runLeaves setback (leavesOfParts parts) world.sources).1
      (runLeaves setback (leavesOfParts parts) world.sources).2
      (world.compensate now (.composite parts) setback) := by
  have once := map_leaf_runLeaves setback (leavesOfParts parts) world.sources
  rw [World.compensate_composite]
  generalize runLeaves setback (leavesOfParts parts) world.sources = ran at once
  exact
    { leaves := fun run member => size?_of_mem_leavesOfParts parts run.leaf
        (once ▸ List.mem_map_of_mem member)
      once
      succeeds := fun _ => nofun
      recovers := by
        rw [Except.ok.injEq, Verdict.of_eq_recovered_iff, List.any_eq_true]
        simp only [LeafRun.recovered_iff]
      journal := rfl
      reports := by
        dsimp only
        rw [World.events_recordAll, List.filterMap_flatMap, List.filterMap_eq_flatMap_toList]
        simp only [LeafRun.filterMap_event?_occurrences]
        rfl }

/-! ## Giving up -/

/-- Compensations of one name that do the same. -/
structure Indistinct (first second : Compensation) : Prop where
  name : first.name = second.name
  run : ∀ setback sources, first.run setback sources = second.run setback sources

/-- An action, and the composite in which it is alone. -/
inductive Alone : Compensation → Compensation → Prop
  | same (compensation : Compensation) : Alone compensation compensation
  | part (action : Compensation) : Alone action (.composite [action])

end Compensation

namespace Executor

variable (unit : WorkUnit) (setback : Setback) (attempts : Nat)

/-- Giving up a unit removes its count, runs the compensation and records what it does. -/
theorem giveUp_eq_recordAll (executor : Executor) (compensation : Compensation) (now : Nat)
    (world : World) :
    executor.giveUp unit setback attempts (some compensation) now world =
      let left := executor.resetCount unit now world
      let given := givenUp unit setback attempts left.sources (some compensation)
      (given.1,
        { left with sources := (compensation.run setback left.sources).sources }.recordAll now
          (.audited (.gaveUp setback (some compensation.name)) :: given.2)) := by
  rw [giveUp]
  generalize executor.resetCount unit now world = left
  -- the report comes first, and leaves the sources as they are
  have sources : (left.audit now (.gaveUp setback (some compensation.name))).sources =
    left.sources := rfl
  dsimp only [Option.map_some]
  rw [World.compensate_eq_recordAll, sources, givenUp]
  dsimp only
  cases (compensation.run setback left.sources).verdict with
  | error failure => simp [World.recordAll, World.audit, World.record]
  | ok verdict => cases verdict <;> simp [World.recordAll, World.audit, World.record]

/-- As the only part of a composite, an action makes up for a unit in the same way. -/
theorem givenUp_composite (sources : Table Nat Source) (action : Compensation) :
    givenUp unit setback attempts sources (some (.composite [action])) =
      givenUp unit setback attempts sources (some action) := by
  simp only [givenUp, Compensation.run, Compensation.runParts]
  rcases (action.run setback sources).verdict with failure | (_ | _) <;>
    simp [CompensationNote.occurrence]

theorem giveUp_indistinct (executor : Executor) {first second : Compensation}
    (same : first.Indistinct second) (now : Nat) (world : World) :
    executor.giveUp unit setback attempts (some first) now world =
      executor.giveUp unit setback attempts (some second) now world := by
  rw [giveUp_eq_recordAll, giveUp_eq_recordAll]
  dsimp only [givenUp]
  rw [same.run, same.name]

end Executor

/-! ## Stand-ins -/

/-- An occurrence in which a compensation is not named when a unit is given up. -/
def Occurrence.anonymous : Occurrence → Occurrence
  | audited (.gaveUp setback compensation) =>
    audited (.gaveUp setback (compensation.map fun _ => ""))
  | occurrence => occurrence

def JournalEntry.anonymous (entry : JournalEntry) : JournalEntry :=
  { entry with occurrence := entry.occurrence.anonymous }

namespace World

/-- A world in which compensations are not named when a unit is given up. -/
def anonymous (world : World) : World :=
  { world with journal := world.journal.map JournalEntry.anonymous }

/-- The reports of compensations that failed. -/
def failures (world : World) : List AuditEvent :=
  world.events.filter (·.kind = "compensation_failed")

/-- No report of a failure is about giving up a unit. -/
theorem failures_anonymous (world : World) : world.anonymous.failures = world.failures := by
  rw [failures, failures, events_eq, events_eq, anonymous, Array.toList_map, List.filterMap_map,
    List.filter_filterMap, List.filter_filterMap]
  refine List.filterMap_congr fun entry _ => ?_
  rw [Function.comp_apply, JournalEntry.anonymous]
  cases entry.occurrence with
  | audited event =>
    cases event with
    | gaveUp setback compensation => rfl
    | _ => rfl
  | invoked | asked | compensated | published => rfl

/-- Worlds that differ in their journals only are the same with the same journal. -/
theorem Coincide.with_journal {first second : World} (same : first.Coincide second)
    (journal : Array JournalEntry) : { first with journal } = { second with journal } :=
  congrArg (fun world : World => { world with journal }) same

end World

namespace Substitution

/-- Compensations that do the same under the same name. -/
def indistinct : Substitution where
  compensations := Compensation.Indistinct
  journals := Eq
  refl _ := rfl
  trans := Eq.trans
  append first second := first ▸ second ▸ rfl
  giveUp same executor unit setback attempts now world := by
    rw [executor.giveUp_indistinct unit setback attempts same]
    exact ⟨rfl, .refl _, rfl⟩

/-- Composites of one action for that action. -/
def alone : Substitution where
  compensations := Compensation.Alone
  journals first second := first.map JournalEntry.anonymous = second.map JournalEntry.anonymous
  refl _ := rfl
  trans := Eq.trans
  append first second := by rw [Array.map_append, Array.map_append, first, second]
  giveUp stands executor unit setback attempts now world := by
    cases stands with
    | same => exact ⟨rfl, .refl _, rfl⟩
    | part =>
      rw [executor.giveUp_eq_recordAll, executor.giveUp_eq_recordAll]
      dsimp only
      rw [Executor.givenUp_composite, ← (Compensation.likewise_composite _).sources]
      refine ⟨rfl, rfl, ?_⟩
      -- the names are all that differs, and anonymous journals do not have them
      simp [World.recordAll, JournalEntry.anonymous, Occurrence.anonymous]

/-- Nothing at all tells compensations apart that do the same under the same name. -/
theorem indistinct_unnoticed : indistinct.Unnoticed id := by
  refine unnoticed fun {first second} worlds => ?_
  have journal : first.journal = second.journal := worlds.journal
  calc first = { first with journal := second.journal } := by rw [← journal]
    _ = second := worlds.coincide.with_journal second.journal

theorem alone_anonymous {first second : World} (worlds : alone.Worlds first second) :
    first.anonymous = second.anonymous := by
  have journal : first.journal.map JournalEntry.anonymous = _ := worlds.journal
  rw [World.anonymous, World.anonymous, journal]
  exact worlds.coincide.with_journal _

/-- An action that is alone in a composite is told apart by the name it goes by when a unit is given
up. -/
theorem alone_unnoticed : alone.Unnoticed World.anonymous :=
  unnoticed alone_anonymous

/-- The reports of its failures are those of the action. -/
theorem alone_unnoticed_failures : alone.Unnoticed World.failures := by
  refine unnoticed fun {first second} worlds => ?_
  rw [← first.failures_anonymous, ← second.failures_anonymous, alone_anonymous worlds]

end Substitution

/-! ## Nesting -/

/-- A composite runs its leaves, whatever becomes of each of them, and recovers if one of them does.
Composites with the same leaves cannot be told apart, and an action that is alone in a composite
gives the same results and the same reports of failures as by itself. -/
theorem composites_flatten :
    (∀ parts setback now (world : World),
      let ran := Compensation.runLeaves setback (Compensation.leavesOfParts parts) world.sources
      Compensation.RunsLeaves parts setback now world ran.1 ran.2
        (world.compensate now (.composite parts) setback)) ∧
      (∀ parts others, Compensation.leavesOfParts parts = Compensation.leavesOfParts others →
        (Compensation.composite parts).Indistinct (.composite others)) ∧
      Substitution.indistinct.Unnoticed id ∧
      Substitution.alone.Unnoticed World.anonymous ∧
      Substitution.alone.Unnoticed World.failures := by
  refine ⟨Compensation.runsLeaves, fun parts others same => ⟨rfl, fun setback sources => ?_⟩,
    Substitution.indistinct_unnoticed, Substitution.alone_unnoticed,
    Substitution.alone_unnoticed_failures⟩
  exact Compensation.run_congr setback same sources

/-- A refund between two actions that fail, somewhere in a nest of composites: both failures are
reported, and the composite recovers as it would without the nest. When a unit is given up, the
first action is reported once, by itself as well as in a composite. -/
theorem composites_flatten_nested :
    let lost : Failure := .compensation "undo" "lost"
    let undo : Compensation := .custom "undo" fun _ => .error lost
    let refund : Compensation := .custom "refund" fun _ => .ok .recovered
    let nested : List Compensation :=
      [undo, .composite [.composite [], refund, .composite [.composite [undo]]], .log]
    let setback : Setback := default
    let answer := ({} : World).compensate 7 (.composite nested) setback
    let world : World :=
      { operations := Table.insert {} 0 (.simulated "down" 0 true .timeout .zero) }
    let executor : Executor :=
      { counter := .inProcess "counts" {}, handler := ⟨{ maxAttempts := 1 }, some undo⟩ }
    let moves (executor : Executor) : List Move :=
      [.submit executor ⟨"a", "deliver", none, .empty⟩, .loop .turn]
    let scene (executor : Executor) := (Scene.opening world 0).play (moves executor)
    answer.1 = .ok .recovered ∧
      answer.2.events =
        [.compensationFailed setback "undo" lost, .compensationFailed setback "undo" lost] ∧
      (Compensation.composite nested).Indistinct (.composite [undo, refund, undo, .log]) ∧
      (scene executor).run.state.failures.length = 1 ∧
      Substitution.alone.LookTheSame World.failures (scene executor)
        (scene (executor.compensatedBy (some (.composite [undo])))) := by
  intro lost undo refund nested setback answer world executor moves scene
  -- the same unit is submitted to both executors, and one turn of the loop gives it up
  obtain ⟨runs, same, -, -, alone⟩ := composites_flatten
  have ran := runs nested setback 7 {}
  have all : (moves executor).Forall₂ Substitution.alone.Moves
      (moves (executor.compensatedBy (some (.composite [undo])))) :=
    .cons (.submit (.compensatedBy (.some (.part undo))) _) (.cons (.loop _) .nil)
  exact ⟨ran.recovers.2 ⟨⟨refund, .ok .recovered⟩, .tail _ (.head _), rfl⟩, ran.reports,
    same nested _ rfl, by decide +kernel, alone world 0 _ _ all⟩

end Resilience
