import Resilience.Proofs.Executor.Dealings
import Resilience.Proofs.Executor.Heedless

/-!
# Compensations that fail

What a compensation comes to is asked once, when a unit is given up: it recovers, or it does not.
That it failed is reported and has no other consequence, so that it might as well have let the
failure propagate. With compensations of which this is the only difference, giving up a unit has the
same result and leaves the same world, but for the journal. For the result of the unit itself it does
not even matter what else a compensation does.

## Main definitions

* `Compensation.Likewise` — compensations that do the same, but may fail where others propagate
* `Executor.compensatedBy`, `Executor.Likewise` — executors with such compensations
* `World.Coincide` — worlds with different journals only

## Main statements

* `Executor.giveUp_likewise` — giving up a unit comes to the same
* `Executor.endAttempt_compensatedBy` — a result depends on whether a compensation recovers only
-/

namespace Resilience

/-! ## Compensations -/

namespace Compensation

/-- Compensations that do the same to sources and recover from the same failed attempts. Where
neither recovers, one may fail and the other let the failure propagate. -/
structure Likewise (first second : Compensation) : Prop where
  sources : ∀ setback sources,
    (first.run setback sources).sources = (second.run setback sources).sources
  recovers : ∀ setback sources, (first.run setback sources).verdict = .ok .recovered ↔
    (second.run setback sources).verdict = .ok .recovered

theorem recovers_iff (compensation : Compensation) (setback : Setback)
    (sources : Table Nat Source) : compensation.recovers setback = true ↔
      (compensation.run setback sources).verdict = .ok .recovered := by
  rw [← isRecovered_run setback compensation sources]
  rcases (compensation.run setback sources).verdict with failure | (_ | _) <;>
    simp [Verdict.isRecovered]

/-- Whether a compensation recovers does not depend on the sources. -/
theorem recovers_eq {first second : Compensation} {setback : Setback} {sources : Table Nat Source}
    (agree : (first.run setback sources).verdict = .ok .recovered ↔
      (second.run setback sources).verdict = .ok .recovered) :
    first.recovers setback = second.recovers setback := by
  rw [Bool.eq_iff_iff, recovers_iff first setback sources, recovers_iff second setback sources]
  exact agree

/-- As the only part of a composite, a compensation does what it does alone. -/
theorem likewise_composite (compensation : Compensation) :
    compensation.Likewise (.composite [compensation]) := by
  constructor
  · intro setback sources
    simp only [run, runParts]
  · intro setback sources
    simp only [run, runParts]
    rcases (compensation.run setback sources).verdict with failure | (_ | _) <;> simp

end Compensation

/-! ## Worlds with different journals -/

namespace World

/-- A world without its journal. -/
def unrecorded (world : World) : World := { world with journal := #[] }

/-- Worlds that differ in their journals only. -/
def Coincide (first second : World) : Prop := first.unrecorded = second.unrecorded

namespace Coincide

variable {α : Type} {first second third : World}

theorem refl (world : World) : world.Coincide world := rfl

theorem trans (here : first.Coincide second) (there : second.Coincide third) :
    first.Coincide third := Eq.trans here there

theorem symm (same : first.Coincide second) : second.Coincide first := Eq.symm same

theorem statuses (same : first.Coincide second) : first.statuses = second.statuses := by
  have equal : first.unrecorded.statuses = second.unrecorded.statuses :=
    congrArg World.statuses same
  exact equal

theorem scheduler (same : first.Coincide second) (id : Nat) :
    first.scheduler id = second.scheduler id := by
  have equal : first.unrecorded.scheduler id = second.unrecorded.scheduler id :=
    congrArg (World.scheduler · id) same
  exact equal

theorem freshHandle (same : first.Coincide second) : first.freshHandle = second.freshHandle :=
  congrArg Table.size same.statuses

theorem eq_retold (same : first.Coincide second) :
    second = first.retold first.statuses second.journal := by
  obtain ⟨⟩ := first
  obtain ⟨⟩ := second
  simp only [Coincide, unrecorded, World.mk.injEq] at same
  obtain ⟨rfl, rfl, rfl, rfl, rfl, rfl, rfl, -⟩ := same
  rfl

theorem of_record (world : World) (now : Nat) (occurrence : Occurrence) :
    (world.record now occurrence).Coincide world := rfl

/-- Heedless changes come to the same where worlds coincide. -/
theorem change (same : first.Coincide second) {change : World → α × World}
    (heeds : Heedless change) :
    (change first).1 = (change second).1 ∧ (change first).2.Coincide (change second).2 := by
  obtain ⟨new, told⟩ := heeds first
  have here : change first = _ := told first.statuses first.journal
  have there := told first.statuses second.journal
  rw [← same.eq_retold] at there
  rw [there]
  refine ⟨rfl, ?_⟩
  rw [here]
  rfl

theorem publish (same : first.Coincide second) (now handle : Nat) (status : Status) :
    (first.publish now handle status).Coincide (second.publish now handle status) := by
  rw [same.eq_retold]
  rfl

theorem elapse (same : first.Coincide second) (before after : Nat) :
    (first.elapse before after).Coincide (second.elapse before after) := by
  rw [same.eq_retold]
  rfl

/-- Notes of a compensation change the journal only. -/
theorem of_compensate (world : World) (now : Nat) (compensation : Compensation)
    (setback : Setback) :
    (world.compensate now compensation setback).2.Coincide
      { world with sources := (compensation.run setback world.sources).sources } := by
  rw [compensate]
  dsimp only
  generalize (compensation.run setback world.sources).notes = notes
  generalize { world with sources := (compensation.run setback world.sources).sources } = ran
  induction notes generalizing ran with
  | nil => exact refl ran
  | cons note notes ih =>
    rw [List.foldl_cons]
    refine (ih _).trans ?_
    cases note with
    | ran | partFailed => exact of_record ran now _

end Coincide

end World

/-! ## Attempts -/

namespace Executor

variable {unit : WorkUnit} {now : Nat} {world : World}

/-- An executor with another compensation, or none. -/
def compensatedBy (executor : Executor) (compensation : Option Compensation) : Executor :=
  { executor with handler := { executor.handler with compensation } }

/-- Executors that differ in compensations only that do the same, but may fail where others
propagate. -/
inductive Likewise (executor : Executor) : Executor → Prop
  | compensatedBy {compensation : Option Compensation}
      (alike : Option.Rel Compensation.Likewise executor.handler.compensation compensation) :
    Likewise executor (executor.compensatedBy compensation)

/-- The result of a unit that is given up depends on whether its compensation recovers. -/
theorem fst_giveUp (executor : Executor) (setback : Setback) (attempts : Nat)
    (compensation : Option Compensation) :
    (executor.giveUp unit setback attempts compensation now world).1 =
      if compensation.any (·.recovers setback) then .ok (.recovered attempts)
      else .error (.exhausted unit.action attempts setback.fault) := by
  obtain ⟨sources, result, -⟩ := executor.giveUp_eq unit now world setback attempts compensation
  rw [result]
  exact (executor.compensatedBy compensation).result_givenUp unit setback attempts sources

/-- What a compensation leaves behind, besides the journal, are the sources. -/
theorem snd_giveUp (executor : Executor) (setback : Setback) (attempts : Nat)
    (compensation : Compensation) :
    (executor.giveUp unit setback attempts (some compensation) now world).2.Coincide
      { executor.resetCount unit now world with
        sources :=
          (compensation.run setback (executor.resetCount unit now world).sources).sources } := by
  have ran := World.Coincide.of_compensate ((executor.resetCount unit now world).audit now
    (.gaveUp setback (some compensation.name))) now compensation setback
  rw [giveUp]
  dsimp only [Option.map_some]
  split
  · exact ran
  · exact ran
  · exact (World.Coincide.of_record _ now _).trans ran

theorem giveUp_likewise (executor : Executor) (setback : Setback) (attempts : Nat)
    {compensation other : Option Compensation}
    (alike : Option.Rel Compensation.Likewise compensation other) :
    (executor.giveUp unit setback attempts compensation now world).1 =
        (executor.giveUp unit setback attempts other now world).1 ∧
      (executor.giveUp unit setback attempts compensation now world).2.Coincide
        (executor.giveUp unit setback attempts other now world).2 := by
  cases alike with
  | none => exact ⟨rfl, .refl _⟩
  | some alike =>
    constructor
    · rw [fst_giveUp, fst_giveUp, Option.any_some, Option.any_some,
        Compensation.recovers_eq (alike.recovers setback {})]
    · have here := @snd_giveUp unit now world executor setback attempts
      refine (here _).trans ?_
      rw [alike.sources]
      exact (here _).symm

/-- A failed attempt makes no difference between compensations unless it is the last one. -/
theorem handle_compensatedBy (executor : Executor) (unit : WorkUnit) (fault : Fault)
    (prior now : Nat) (world : World) :
    (∀ compensation, (executor.compensatedBy compensation).handle unit fault prior now world =
      executor.handle unit fault prior now world) ∨
    ∃ setback attempt later, ∀ compensation,
      (executor.compensatedBy compensation).handle unit fault prior now world =
        (.done (executor.giveUp unit setback attempt compensation now later).1,
          (executor.giveUp unit setback attempt compensation now later).2) := by
  obtain ⟨⟨attempt, later⟩, counted⟩ : ∃ counted, executor.countAttempt unit prior now
    (world.changeBreaker now executor.breaker (·.recordFault fault (Instant.ofMillis now))) =
      counted := ⟨_, rfl⟩
  -- the decision to retry is made before anybody looks at the compensation
  have handled (compensation : Option Compensation) :
      (executor.compensatedBy compensation).handle unit fault prior now world =
        if executor.isRetried fault attempt then
          (.retry attempt (executor.handler.policy.delay (max attempt 1) later.entropy).1,
            { later with
              entropy := (executor.handler.policy.delay (max attempt 1) later.entropy).2 }.audit now
                (.retryScheduled (executor.setback unit now fault attempt)
                  (executor.handler.policy.delay (max attempt 1) later.entropy).1))
        else
          (.done (executor.giveUp unit (executor.setback unit now fault attempt) attempt
              compensation now later).1,
            (executor.giveUp unit (executor.setback unit now fault attempt) attempt
              compensation now later).2) := by
    have same : (executor.compensatedBy compensation).countAttempt unit prior now
        (world.changeBreaker now (executor.compensatedBy compensation).breaker
          (·.recordFault fault (Instant.ofMillis now))) = (attempt, later) := counted
    have judged := (executor.compensatedBy compensation).judge_setback unit now fault
      attempt later.entropy
    have retried : (executor.compensatedBy compensation).isRetried fault attempt =
        executor.isRetried fault attempt := rfl
    rw [handle, same]
    dsimp only
    rw [judged, retried]
    cases executor.isRetried fault attempt with
    | true | false => rfl
  cases again : executor.isRetried fault attempt with
  | true =>
    have own := (handled executor.handler.compensation).trans (if_pos again)
    exact .inl fun compensation => ((handled compensation).trans (if_pos again)).trans own.symm
  | false =>
    exact .inr ⟨_, attempt, later, fun compensation =>
      (handled compensation).trans (if_neg (by rw [again]; exact Bool.false_ne_true))⟩

/-- An attempt makes no difference between compensations unless it gives the unit up. -/
theorem endAttempt_compensatedBy (executor : Executor) (unit : WorkUnit) (prior : Nat)
    (outcome : Except Fault Unit) (now : Nat) (world : World) :
    (∀ compensation, (executor.compensatedBy compensation).endAttempt unit prior outcome now world =
      executor.endAttempt unit prior outcome now world) ∨
    ∃ setback attempt later, ∀ compensation,
      (executor.compensatedBy compensation).endAttempt unit prior outcome now world =
        (.done (executor.giveUp unit setback attempt compensation now later).1,
          (executor.giveUp unit setback attempt compensation now later).2) := by
  have concluded (compensation : Option Compensation) :
      (world.operation (executor.compensatedBy compensation).operation).conclude unit outcome =
        (world.operation executor.operation).conclude unit outcome := rfl
  simp only [endAttempt, concluded]
  cases (world.operation executor.operation).conclude unit outcome with
  | ok _ => exact .inl fun _ => rfl
  | error fault =>
    dsimp only
    split
    · exact .inl fun _ => rfl
    · exact executor.handle_compensatedBy unit fault prior now world

/-- The result of an attempt depends on whether a compensation recovers, and on nothing else that it
does. -/
theorem fst_endAttempt_compensatedBy (executor : Executor) {compensation other : Compensation}
    (agree : ∀ setback, (compensation.run setback world.sources).verdict = .ok .recovered ↔
      (other.run setback world.sources).verdict = .ok .recovered)
    (prior : Nat) (outcome : Except Fault Unit) :
    ((executor.compensatedBy compensation).endAttempt unit prior outcome now world).1 =
      ((executor.compensatedBy other).endAttempt unit prior outcome now world).1 := by
  rcases executor.endAttempt_compensatedBy unit prior outcome now world with
    same | ⟨setback, attempt, later, gaveUp⟩
  · rw [same, same]
  · rw [gaveUp, gaveUp, fst_giveUp, fst_giveUp, Option.any_some, Option.any_some,
      Compensation.recovers_eq (agree setback)]

end Executor

end Resilience
