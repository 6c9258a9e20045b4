import Resilience.Json.Decode

/-!
# States of a circuit

A closed circuit admits every call, an open one none, and a half-open one admits probes.

## Main definitions

* `Circuit` — the three states
* `Transition` — a change from one state to another, with the breaker's name
-/

namespace Resilience

/-- The state of a circuit. -/
inductive Circuit where
  | closed
  | opened
  | halfOpen
  deriving DecidableEq, Repr, Inhabited

namespace Circuit

def name : Circuit → String
  | closed => "closed"
  | opened => "open"
  | halfOpen => "half_open"

/-- The state inside a description of a record. -/
def description : Circuit → String
  | closed => "Closed"
  | opened => "Open"
  | halfOpen => "HalfOpen"

def all : List Circuit := [closed, opened, halfOpen]

def json (circuit : Circuit) : Json := .string circuit.name

def decode : Decoder Circuit := decodeChoice fun name => (all.find? (·.name = name)).map .plain

end Circuit

/-- A change of a breaker's state. -/
structure Transition where
  breaker : String
  before : Circuit
  after : Circuit
  deriving DecidableEq, Repr, Inhabited

end Resilience
