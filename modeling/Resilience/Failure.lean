import Resilience.Duration
import Resilience.Fault

/-!
# Failures reported to callers

A caller learns that the operation itself failed for good, that an attempt was not admitted, or
that some part around the operation failed. Each failure carries what its message needs.

## Main definitions

* `Failure` — the causes a caller can be told
* `Failure.message` — the text of a failure
* `Failure.isDenied`, `Failure.isInternal`, `Failure.fault?` — classes of failures
* `Failure.json`, `Failure.ofJson` — failures as documents
-/

namespace Resilience

/-- A failure as a caller learns it. -/
inductive Failure where
  /-- The operation failed in its last attempt. -/
  | exhausted (action : String) (attempts : Nat) (fault : Fault)
  /-- A circuit breaker did not admit the attempt. -/
  | circuitOpen (breaker : String) (hint : Option String)
  /-- A guarded call did not end in time. -/
  | timedOut (breaker : String) (elapsed : Duration)
  /-- The backend of a retry counter failed. -/
  | counterBackend (backend : String) (message : String)
  /-- A time to live is longer than counters allow. -/
  | ttlTooLong (ttl : Duration) (greatest : Duration)
  /-- A compensation failed. -/
  | compensation (action : String) (message : String)
  /-- The scheduler accepts no more tasks. -/
  | schedulerShutDown
  /-- A source of work units failed. -/
  | source (id : String) (message : String)
  /-- Settings are not acceptable. -/
  | configuration (message : String)
  | internal (message : String)
  deriving Repr, Inhabited

namespace Failure

def message : Failure → String
  | exhausted action attempts fault =>
    "action '" ++ action ++ "' failed after " ++ toString attempts ++ " attempt(s): " ++ fault.text
  | circuitOpen breaker _ => "circuit breaker '" ++ breaker ++ "' is open"
  | timedOut breaker elapsed =>
    "call through circuit breaker '" ++ breaker ++ "' timed out after " ++ elapsed.text
  | counterBackend backend message =>
    "retry counter backend '" ++ backend ++ "' failed: " ++ message
  | ttlTooLong ttl greatest =>
    "counter ttl " ++ ttl.text ++ " exceeds maximum " ++ greatest.text
  | compensation action message => "compensation '" ++ action ++ "' failed: " ++ message
  | schedulerShutDown => "retry scheduler has been shut down"
  | source id message => "unit source '" ++ id ++ "' failed: " ++ message
  | configuration message => "configuration error: " ++ message
  | internal message => "internal error: " ++ message

/-- The name of the kind of a failure. -/
def name : Failure → String
  | exhausted .. => "Failed"
  | circuitOpen .. => "CircuitOpen"
  | timedOut .. => "Timeout"
  | counterBackend .. => "CounterBackend"
  | ttlTooLong .. => "InvalidTtl"
  | compensation .. => "Compensation"
  | schedulerShutDown => "SchedulerShutdown"
  | source .. => "Source"
  | configuration _ => "Configuration"
  | internal _ => "Internal"

/-- Whether the attempt was not admitted. -/
def isDenied : Failure → Bool
  | circuitOpen .. => true
  | _ => false

/-- Whether a part around the operation failed. -/
def isInternal : Failure → Bool
  | counterBackend .. | compensation .. | source .. => true
  | _ => false

/-- The fault of the last attempt, if the operation itself failed. -/
def fault? : Failure → Option Fault
  | exhausted _ _ fault => some fault
  | _ => none

/-- What a failure of its kind tells besides its name and message. -/
def details : Failure → List (String × Json)
  | exhausted _ attempts fault =>
    [("source", .string fault.text), ("attempts", .natural attempts), ("last", fault.json)]
  | circuitOpen _ hint => [("hint", .ofText? hint)]
  | _ => []

/-- The name, the message and the details. -/
def json (failure : Failure) : Json :=
  .object ([("error", .string failure.name), ("message", .string failure.message)] ++
    failure.details)

/-- A failure from the name of its kind and what it carries. -/
def ofJson (json : Json) : Failure :=
  let text := json.str
  match text "variant" with
  | "Failed" => exhausted (text "action") (json.nat "attempts") (.ofJson (json.get "error"))
  | "CircuitOpen" => circuitOpen (text "name") (json.str? "hint")
  | "Timeout" => timedOut (text "name") (.ofJson (json.get "elapsed"))
  | "CounterBackend" => counterBackend (text "backend") (text "message")
  | "InvalidTtl" => ttlTooLong (.ofJson (json.get "ttl")) (.ofJson (json.get "max"))
  | "Compensation" => compensation (text "action") (text "message")
  | "SchedulerShutdown" => schedulerShutDown
  | "Source" => source (text "source_id") (text "message")
  | "Configuration" => configuration (text "message")
  | _ => internal (text "message")

end Failure

end Resilience
