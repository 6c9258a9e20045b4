import Resilience.Duration
import Resilience.Fault
import Resilience.Table
import Resilience.WorkUnit

/-!
# Operations on work units

An operation takes some time for a unit and then succeeds or reports a fault. What an invocation
comes to may depend on the unit and on all invocations before it, and units can be marked as
rejected while an invocation is under way.

## Main definitions

* `Call` — an invocation that has been made
* `Response` — what an invocation takes and what it comes to
* `Operation` — an operation with the invocations made so far
* `Operation.invoke`, `Operation.conclude` — the two ends of an invocation
* `Operation.simulated`, `Operation.scripted` — operations for trying things out
-/

namespace Resilience

/-- An invocation that has been made, with its time in milliseconds. -/
structure Call where
  unit : WorkUnit
  time : Nat
  deriving Inhabited

/-- What an invocation takes and what it comes to. -/
structure Response where
  latency : Duration := .zero
  outcome : Except Fault Unit := .ok ()

instance : Inhabited Response := ⟨{}⟩

/-- An operation on work units. -/
structure Operation where
  name : String
  /-- The response to a unit after some invocations. -/
  respond : List Call → WorkUnit → Response := fun _ _ => {}
  /-- The invocations made so far. -/
  calls : List Call := []
  /-- Units that are rejected whatever else would have happened, by id. -/
  rejections : Table String FaultKind := {}

namespace Operation

instance : Inhabited Operation := ⟨{ name := "" }⟩

/-- Begins an invocation. -/
def invoke (operation : Operation) (unit : WorkUnit) (now : Nat) : Response × Operation :=
  (operation.respond operation.calls unit,
    { operation with calls := operation.calls ++ [⟨unit, now⟩] })

/-- The end of an invocation that was to come to the given outcome. -/
def conclude (operation : Operation) (unit : WorkUnit) (outcome : Except Fault Unit) :
    Except Fault Unit :=
  match operation.rejections.find? unit.id with
  | some kind => .error (.of kind ("unit " ++ unit.id ++ " rejected"))
  | none => outcome

/-- Rejects a unit from now on. -/
def reject (operation : Operation) (unitId : String) (kind : FaultKind) : Operation :=
  { operation with rejections := operation.rejections.insert unitId kind }

/-- An operation that fails its first invocations, or all of them, with a fault of one kind. -/
def simulated (name : String) (failsFirst : Nat) (failsAlways : Bool) (kind : FaultKind)
    (latency : Duration) : Operation where
  name
  respond calls _ :=
    let invocation := calls.length + 1
    if failsAlways || invocation ≤ failsFirst then
      ⟨latency, .error (.of kind ("simulated failure #" ++ toString invocation))⟩
    else ⟨latency, .ok ()⟩

/-- An operation whose invocations take listed responses in turn, and a last one after those. -/
def scripted (name : String) (responses : List Response) (last : Response) : Operation where
  name
  respond calls _ := responses.getD calls.length last

end Operation

end Resilience
