import Resilience.Failure

/-!
# Progress of units of work

The status of a unit is published while it is worked on. Statuses that end the work correspond to
the results of the work.

## Main definitions

* `Completion` — how a unit ended without a failure
* `Status` — the published statuses
* `Status.result?`, `Status.ofResult` — terminal statuses and results
* `Completion.json`, `Status.json` — both as documents
-/

namespace Resilience

/-- How a unit ended without a failure, and after how many attempts. -/
inductive Completion where
  | completed (attempts : Nat)
  /-- The operation failed for good and a compensation recovered. -/
  | recovered (attempts : Nat)
  /-- The unit had gone when it was to be tried again. -/
  | abandoned (attempts : Nat)
  deriving DecidableEq, Repr, Inhabited

namespace Completion

def attempts : Completion → Nat
  | completed attempts | recovered attempts | abandoned attempts => attempts

def isCompleted : Completion → Bool
  | completed _ => true
  | _ => false

def name : Completion → String
  | completed _ => "completed"
  | recovered _ => "recovered"
  | abandoned _ => "abandoned"

def json (completion : Completion) : Json :=
  .object [("completion", .string completion.name), ("attempts", .natural completion.attempts),
    ("is_completed", .bool completion.isCompleted)]

/-- A completion from its name and the number of attempts. -/
def ofJson (json : Json) : Completion :=
  let attempts := json.nat "n"
  match json.str "completion" with
  | "completed" => completed attempts
  | "recovered" => recovered attempts
  | _ => abandoned attempts

end Completion

/-- The status of a unit. -/
inductive Status where
  | pending
  | inProgress (attempt : Nat)
  | retryScheduled (attempt : Nat) (delay : Duration)
  | completed (attempts : Nat)
  | compensated (attempts : Nat)
  | abandoned (attempts : Nat)
  | failed (failure : Failure)
  deriving Repr, Inhabited

namespace Status

/-- Whether the work has ended. -/
def isTerminal : Status → Bool
  | pending | inProgress _ | retryScheduled .. => false
  | completed _ | compensated _ | abandoned _ | failed _ => true

def isPending : Status → Bool
  | pending => true
  | _ => false

def isRetryScheduled : Status → Bool
  | retryScheduled .. => true
  | _ => false

/-- The result that a terminal status stands for. -/
def result? : Status → Option (Except Failure Completion)
  | completed attempts => some (.ok (.completed attempts))
  | compensated attempts => some (.ok (.recovered attempts))
  | abandoned attempts => some (.ok (.abandoned attempts))
  | failed failure => some (.error failure)
  | pending | inProgress _ | retryScheduled .. => none

/-- The terminal status of a result. -/
def ofResult : Except Failure Completion → Status
  | .ok (.completed attempts) => completed attempts
  | .ok (.recovered attempts) => compensated attempts
  | .ok (.abandoned attempts) => abandoned attempts
  | .error failure => failed failure

def name : Status → String
  | pending => "pending"
  | inProgress _ => "in_progress"
  | retryScheduled .. => "retry_scheduled"
  | completed _ => "completed"
  | compensated _ => "compensated"
  | abandoned _ => "abandoned"
  | failed _ => "failed"

/-- What a status tells besides its name. -/
def details : Status → List (String × Json)
  | pending => []
  | retryScheduled attempt delay => [("n", .natural attempt), ("delay", delay.json)]
  | inProgress n | completed n | compensated n | abandoned n => [("n", .natural n)]
  | failed failure => [("error", failure.json)]

def json (status : Status) : Json := .object (("status", .string status.name) :: status.details)

/-- A status from its name and what it tells besides. -/
def ofJson (json : Json) : Status :=
  let n := json.nat "n"
  match json.str "status" with
  | "in_progress" => inProgress n
  | "completed" => completed n
  | "compensated" => compensated n
  | "abandoned" => abandoned n
  | "retry_scheduled" => retryScheduled n (.ofJson (json.get "delay"))
  | "failed" => failed (.ofJson (json.get "error"))
  | _ => pending

@[simp] theorem result?_ofResult (result : Except Failure Completion) :
    (ofResult result).result? = some result := by
  rcases result with failure | completion
  · rfl
  · cases completion <;> rfl

theorem result?_eq_none {status : Status} (unfinished : status.isTerminal = false) :
    status.result? = none := by
  cases status <;> first | rfl | cases unfinished

theorem isTerminal_iff_result? (status : Status) :
    status.isTerminal = true ↔ ∃ result, status.result? = some result := by
  cases status <;> simp [isTerminal, result?]

end Status

end Resilience
