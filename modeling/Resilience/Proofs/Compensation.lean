import Resilience.Compensation

/-!
# What compensations do

A compensation is a tree of composites with actions as its leaves. Running it runs the leaves from
left to right, each once and each for the failed attempt that the compensation is run for. Whether
it recovers depends on the leaves alone: a source that fails to remove a unit does not matter to
that.

## Main definitions

* `Compensation.leaves` — the actions of a compensation that are no composites
* `Compensation.recovers` — whether one of the leaves recovers
* `CompensationNote.setback`, `CompensationNote.action?` — the parts of a note

## Main statements

* `Compensation.setback_of_mem_notes` — all notes are about the failed attempt
* `Compensation.actions_run` — the leaves run in order, once each
* `Compensation.isRecovered_run` — when a compensation recovers
-/

namespace Resilience

/-- Whether a compensation came to a recovery. -/
def Verdict.isRecovered : Except Failure Verdict → Bool
  | .ok .recovered => true
  | .ok .propagate | .error _ => false

namespace CompensationNote

/-- The failed attempt a note is about. -/
def setback : CompensationNote → Setback
  | ran _ setback | partFailed _ setback _ => setback

/-- The action that ran, if the note tells of one. -/
def action? : CompensationNote → Option Compensation
  | ran action _ => some action
  | partFailed .. => none

end CompensationNote

namespace Compensation

mutual

/-- The actions of a compensation that are no composites, from left to right. -/
def leaves : Compensation → List Compensation
  | log => [log]
  | removeUnit source => [removeUnit source]
  | custom name action => [custom name action]
  | composite parts => leavesOfParts parts

/-- The leaves of several compensations. -/
def leavesOfParts : List Compensation → List Compensation
  | [] => []
  | part :: rest => part.leaves ++ leavesOfParts rest

end

mutual

/-- Whether one of the leaves recovers from a failed attempt. -/
def recovers (setback : Setback) : Compensation → Bool
  | log | removeUnit _ => false
  | custom _ action => Verdict.isRecovered (action setback)
  | composite parts => someRecovers setback parts

/-- Whether one of several compensations recovers. -/
def someRecovers (setback : Setback) : List Compensation → Bool
  | [] => false
  | part :: rest => part.recovers setback || someRecovers setback rest

end

variable (setback : Setback)

theorem removeFrom_notes (source : Nat) (sources : Table Nat Source) :
    (removeFrom source setback sources).notes = [.ran (.removeUnit source) setback] := by
  unfold removeFrom
  dsimp only
  split <;> rfl

theorem removeFrom_isRecovered (source : Nat) (sources : Table Nat Source) :
    Verdict.isRecovered (removeFrom source setback sources).verdict = false := by
  unfold removeFrom
  dsimp only
  split
  · rfl
  · rename_i found _
    dsimp only
    cases (found.remove setback.unit.id).1 <;> rfl

/-- What the first of several parts leaves to the others. -/
theorem runParts_cons (part : Compensation) (rest : List Compensation)
    (sources : Table Nat Source) (verdict : Verdict) :
    ∃ noted next,
      (runParts (part :: rest) setback sources verdict) =
        { runParts rest setback (part.run setback sources).sources next with
          notes := (part.run setback sources).notes ++ noted ++
            (runParts rest setback (part.run setback sources).sources next).notes } ∧
      (∀ note ∈ noted, note.setback = setback ∧ note.action? = none) ∧
      (next = .recovered ↔
        verdict = .recovered ∨ Verdict.isRecovered (part.run setback sources).verdict = true) := by
  rw [runParts]
  dsimp only
  rcases (part.run setback sources).verdict with failure | (_ | _)
  · exact ⟨[.partFailed part.name setback failure], verdict, rfl,
      fun note member => by cases List.mem_singleton.1 member; exact ⟨rfl, rfl⟩,
      by simp [Verdict.isRecovered]⟩
  · exact ⟨[], verdict, by simp, List.forall_mem_nil _, by simp [Verdict.isRecovered]⟩
  · exact ⟨[], .recovered, by simp, List.forall_mem_nil _, by simp [Verdict.isRecovered]⟩

mutual

/-- All notes of a compensation are about the failed attempt it is run for. -/
theorem setback_of_mem_notes (compensation : Compensation) (sources : Table Nat Source) :
    ∀ note ∈ (compensation.run setback sources).notes, note.setback = setback := by
  cases compensation with
  | log => simp [run, CompensationNote.setback]
  | removeUnit source => simp [run, removeFrom_notes, CompensationNote.setback]
  | custom name action => simp [run, CompensationNote.setback]
  | composite parts =>
    rw [run]
    exact setback_of_mem_notes_parts parts sources .propagate

theorem setback_of_mem_notes_parts (parts : List Compensation) (sources : Table Nat Source)
    (verdict : Verdict) :
    ∀ note ∈ (runParts parts setback sources verdict).notes, note.setback = setback := by
  cases parts with
  | nil => simp [runParts]
  | cons part rest =>
    obtain ⟨noted, next, same, about, -⟩ := runParts_cons setback part rest sources verdict
    rw [same]
    intro note member
    rcases List.mem_append.1 member with member | member
    · rcases List.mem_append.1 member with member | member
      · exact setback_of_mem_notes part sources note member
      · exact (about note member).1
    · exact setback_of_mem_notes_parts rest _ next note member

end

mutual

/-- Running a compensation runs its leaves from left to right, once each. -/
theorem actions_run (compensation : Compensation) (sources : Table Nat Source) :
    (compensation.run setback sources).notes.filterMap (·.action?) = compensation.leaves := by
  cases compensation with
  | log => simp [run, CompensationNote.action?, leaves]
  | removeUnit source => simp [run, removeFrom_notes, CompensationNote.action?, leaves]
  | custom name action => simp [run, CompensationNote.action?, leaves]
  | composite parts =>
    rw [run, leaves]
    exact actions_runParts parts sources .propagate

theorem actions_runParts (parts : List Compensation) (sources : Table Nat Source)
    (verdict : Verdict) :
    (runParts parts setback sources verdict).notes.filterMap (·.action?) =
      leavesOfParts parts := by
  cases parts with
  | nil => simp [runParts, leavesOfParts]
  | cons part rest =>
    obtain ⟨noted, next, same, about, -⟩ := runParts_cons setback part rest sources verdict
    have none : noted.filterMap (·.action?) = [] :=
      List.filterMap_eq_nil_iff.2 fun note member => (about note member).2
    rw [same, List.filterMap_append, List.filterMap_append, none, List.append_nil,
      actions_run part sources, actions_runParts rest _ next, leavesOfParts]

end

mutual

/-- A compensation recovers exactly when one of its leaves does. -/
theorem isRecovered_run (compensation : Compensation) (sources : Table Nat Source) :
    Verdict.isRecovered (compensation.run setback sources).verdict =
      compensation.recovers setback := by
  cases compensation with
  | log => rfl
  | removeUnit source => exact removeFrom_isRecovered setback source sources
  | custom name action => rfl
  | composite parts =>
    rw [run, recovers]
    simpa using isRecovered_runParts parts sources .propagate

theorem isRecovered_runParts (parts : List Compensation) (sources : Table Nat Source)
    (verdict : Verdict) :
    Verdict.isRecovered (runParts parts setback sources verdict).verdict =
      (decide (verdict = .recovered) || someRecovers setback parts) := by
  cases parts with
  | nil => cases verdict <;> rfl
  | cons part rest =>
    obtain ⟨noted, next, same, -, recovered⟩ := runParts_cons setback part rest sources verdict
    rw [isRecovered_run part sources] at recovered
    have decided : decide (next = .recovered) =
        (decide (verdict = .recovered) || part.recovers setback) := by
      rw [Bool.eq_iff_iff]
      simpa using recovered
    rw [same, someRecovers, ← Bool.or_assoc, ← decided]
    exact isRecovered_runParts rest _ next

end

end Compensation

end Resilience
