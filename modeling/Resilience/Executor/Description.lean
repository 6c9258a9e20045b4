import Resilience.Executor.World
import Resilience.Text.Record

/-!
# Executors as text

## Main definitions

* `Compensation.record`, `Handler.record` — the parts of an executor as records
* `Executor.description` — an executor as a record
* `Executor.json` — an executor by the names of its parts
* `Operation.functionRecord`, `Compensation.functionRecord` — operations and compensations made
  from functions
-/

namespace Resilience

/-- An operation made from a function, as a record. -/
def Operation.functionRecord (name : String) : String :=
  Text.openRecord "FnOperation" [("name", Text.quoted name)]

/-- A compensation made from a function, as a record. -/
def Compensation.functionRecord (name : String) : String :=
  Text.openRecord "FnCompensation" [("name", Text.quoted name)]

mutual

/-- A compensation as a record. -/
def Compensation.record : Compensation → String
  | .log => "LogCompensation"
  | .removeUnit _ => Text.openRecord "RemoveUnitCompensation" []
  | .custom name _ => Compensation.functionRecord name
  | .composite parts =>
    Text.record "CompositeCompensation" [("actions", Text.bracketed (compensationRecords parts))]

/-- Compensations as records. -/
def compensationRecords : List Compensation → List String
  | [] => []
  | part :: rest => part.record :: compensationRecords rest

end

/-- A handler as a record. -/
def Handler.record (handler : Handler) : String :=
  Text.record "FailureHandler"
    [("policy", handler.policy.description),
     ("compensation", Text.optional (handler.compensation.map Compensation.record))]

/-- An executor as a record; a source and a breaker are shown by their names. -/
def Executor.description (executor : Executor) (world : World) : String :=
  let source := (executor.source.bind world.sources.find?).map (·.id)
  let breaker := (executor.breaker.bind world.breakers.find?).map (·.name)
  Text.record "ResilientOperation"
    [("operation", Text.quoted (world.operation executor.operation).name),
     ("counter", Text.quoted executor.counter.backend),
     ("handler", executor.handler.record),
     ("source", Text.quotedOption source),
     ("breaker", Text.quotedOption breaker)]

/-- The parts of an executor by their names, and its policy. -/
def Executor.json (executor : Executor) (world : World) : Json :=
  .object [("name", .string (world.operation executor.operation).name),
    ("policy", executor.handler.policy.json), ("backend", .string executor.counter.backend),
    ("compensation", .ofText? (executor.handler.compensation.map (·.name))),
    ("breaker", .ofText? ((executor.breaker.bind world.breakers.find?).map (·.name)))]

end Resilience
