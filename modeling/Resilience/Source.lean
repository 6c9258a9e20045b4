import Resilience.Failure
import Resilience.WorkUnit

/-!
# Sources of work units

A source knows which units are pending. Finished units are acknowledged, and exhausted ones may be
removed. A source may fail any of the requests made to it. Requests take no time: they are answered
at the instant at which they are made, from what the source holds then.

## Main definitions

* `SourceRequest` — what a source is asked for
* `Source` — pending, acknowledged and removed units
* `Source.acknowledge`, `Source.remove`, `Source.isPending` — the requests
-/

namespace Resilience

/-- What a source is asked for. -/
inductive SourceRequest where
  | acknowledge
  | remove
  | isPending
  deriving DecidableEq, Repr

/-- A source of work units. Units are known by their ids. -/
structure Source where
  id : String
  pending : List String := []
  acknowledged : List String := []
  removed : List String := []
  /-- The requests that fail at present. -/
  failing : SourceRequest → Bool := fun _ => false
  /-- Whether the source takes every unit for pending, without looking. -/
  assumesPending : Bool := false

namespace Source

instance : Inhabited Source := ⟨{ id := "" }⟩

/-- Makes every request fail, or none. -/
def setFailing (source : Source) (failing : Bool) : Source :=
  { source with failing := fun _ => failing }

/-- Adds a pending unit. -/
def push (source : Source) (unitId : String) : Source :=
  if unitId ∈ source.pending then source
  else { source with pending := source.pending ++ [unitId] }

/-- Takes a unit away, and tells whether it was pending. -/
def take (source : Source) (unitId : String) : Bool × Source :=
  (unitId ∈ source.pending, { source with pending := source.pending.filter (· ≠ unitId) })

/-- The failure of a request. -/
def failure (source : Source) : Failure := .source source.id "simulated failure"

/-- Takes a finished unit away for good. -/
def acknowledge (source : Source) (unitId : String) : Except Failure Unit × Source :=
  if source.failing .acknowledge then (.error source.failure, source)
  else
    let source := (source.take unitId).2
    (.ok (), { source with acknowledged := source.acknowledged ++ [unitId] })

/-- Takes an exhausted unit away for good. -/
def remove (source : Source) (unitId : String) : Except Failure Unit × Source :=
  if source.failing .remove then (.error source.failure, source)
  else
    let source := (source.take unitId).2
    (.ok (), { source with removed := source.removed ++ [unitId] })

/-- Whether a unit is still pending. -/
def isPending (source : Source) (unitId : String) : Except Failure Bool :=
  if source.assumesPending then .ok true
  else if source.failing .isPending then .error source.failure
  else .ok (unitId ∈ source.pending)

/-- The finished and the exhausted units, and the number of pending ones. -/
def json (source : Source) : Json :=
  .object [("id", .string source.id), ("acknowledged", .ofTexts source.acknowledged),
    ("removed", .ofTexts source.removed), ("pending", .natural source.pending.length)]

end Source

end Resilience
