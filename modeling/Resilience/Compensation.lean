import Resilience.Failure
import Resilience.Setback
import Resilience.Source
import Resilience.Table

/-!
# Compensations

When a unit is given up, a compensation may make up for it. A compensation either lets the failure
propagate or recovers from it, and it may itself fail. A composite runs all of its parts, whatever
becomes of the others.

Compensations take no time: whatever they do is done at the instant at which the unit is given up, so
nothing comes in between and no shutdown cuts them off. A custom action is given by what it answers
for a setback. It answers the same in every run, and changes nothing else.

## Main definitions

* `Verdict` — whether a compensation recovered
* `Compensation` — the compensations
* `Compensated` — what running a compensation comes to
* `Compensation.run` — runs a compensation
-/

namespace Resilience

/-- Whether a compensation recovered from the failure. -/
inductive Verdict where
  | propagate
  | recovered
  deriving DecidableEq, Repr, Inhabited

/-- What is done about a unit that is given up. -/
inductive Compensation where
  /-- Reports the failure and nothing else. -/
  | log
  /-- Removes the unit from a source. -/
  | removeUnit (source : Nat)
  | custom (name : String) (action : Setback → Except Failure Verdict)
  | composite (parts : List Compensation)
  deriving Inhabited

/-- Something a compensation did. -/
inductive CompensationNote where
  /-- An action that is no composite ran. -/
  | ran (action : Compensation) (setback : Setback)
  /-- A part of a composite failed. -/
  | partFailed (name : String) (setback : Setback) (failure : Failure)

/-- What running a compensation comes to: its verdict or failure, the changed sources and the
things it did, in order. -/
structure Compensated where
  verdict : Except Failure Verdict
  sources : Table Nat Source
  notes : List CompensationNote

namespace Compensation

def name : Compensation → String
  | log => "log"
  | removeUnit _ => "remove-unit"
  | custom name _ => name
  | composite _ => "composite"

/-- The number of parts of a composite. -/
def size? : Compensation → Option Nat
  | composite parts => some parts.length
  | _ => none

/-- Removes the unit of a failed attempt from a source; without the source there is nothing to
remove. -/
def removeFrom (id : Nat) (setback : Setback) (sources : Table Nat Source) : Compensated :=
  let notes := [.ran (.removeUnit id) setback]
  match sources.find? id with
  | none => ⟨.ok .propagate, sources, notes⟩
  | some source =>
    let (answer, source) := source.remove setback.unit.id
    ⟨answer.map fun _ => .propagate, sources.insert id source, notes⟩

mutual

/-- Runs a compensation for a failed attempt. -/
def run (compensation : Compensation) (setback : Setback) (sources : Table Nat Source) :
    Compensated :=
  match compensation with
  | log => ⟨.ok .propagate, sources, [.ran .log setback]⟩
  | removeUnit id => removeFrom id setback sources
  | custom name action => ⟨action setback, sources, [.ran (.custom name action) setback]⟩
  | composite parts => runParts parts setback sources .propagate

/-- Runs the parts of a composite in order. One that recovers decides the verdict, and failures are
noted only. -/
def runParts (parts : List Compensation) (setback : Setback) (sources : Table Nat Source)
    (verdict : Verdict) : Compensated :=
  match parts with
  | [] => ⟨.ok verdict, sources, []⟩
  | part :: rest =>
    let first := part.run setback sources
    let (verdict, notes) := match first.verdict with
      | .ok .recovered => (Verdict.recovered, first.notes)
      | .ok .propagate => (verdict, first.notes)
      | .error failure => (verdict, first.notes ++ [.partFailed part.name setback failure])
    let others := runParts rest setback first.sources verdict
    { others with notes := notes ++ others.notes }

end

end Compensation

end Resilience
