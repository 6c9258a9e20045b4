import Resilience.Json.Access
import Resilience.Json.Decode
import Resilience.Text.Quoted

/-!
# Faults of operations

An operation that fails reports a fault: its kind, a message and possibly the fault that caused it.
Filters on kinds look at the fault itself and at its direct cause, and no deeper.

## Main definitions

* `FaultKind` — the builtin kinds and kinds with a name of their own
* `FaultKind.name`, `FaultKind.ofName` — kinds as names
* `Fault` — a kind, a message and a chain of causes
* `Fault.involves`, `Fault.involvesAny` — the kind of a fault or of its direct cause
* `Fault.json`, `Fault.ofJson` — faults as documents
-/

namespace Resilience

/-- What went wrong, as far as retrying is concerned. -/
inductive FaultKind where
  | timeout
  | connection
  | unavailable
  | rateLimited
  | notFound
  | invalidInput
  | conflict
  | internal
  /-- A kind with a name of its own, which differs from every builtin kind. -/
  | named (name : String)
  deriving DecidableEq, Repr, Inhabited

namespace FaultKind

def name : FaultKind → String
  | timeout => "timeout"
  | connection => "connection"
  | unavailable => "unavailable"
  | rateLimited => "rate_limited"
  | notFound => "not_found"
  | invalidInput => "invalid_input"
  | conflict => "conflict"
  | internal => "internal"
  | named name => name

/-- The builtin kinds. -/
def builtins : List FaultKind :=
  [timeout, connection, unavailable, rateLimited, notFound, invalidInput, conflict, internal]

/-- The builtin kind of that name, or else a kind with the name as its own. -/
def ofName (name : String) : FaultKind :=
  (builtins.find? (·.name = name)).getD (named name)

/-- The kinds that come from the network. -/
def network : List FaultKind := [timeout, connection, unavailable]

def isNetwork (kind : FaultKind) : Bool := kind ∈ network

/-- The kind inside a description of a record. -/
def description : FaultKind → String
  | timeout => "Timeout"
  | connection => "Connection"
  | unavailable => "Unavailable"
  | rateLimited => "RateLimited"
  | notFound => "NotFound"
  | invalidInput => "InvalidInput"
  | conflict => "Conflict"
  | internal => "Internal"
  | named name => "Named(" ++ Text.quoted name ++ ")"

/-- Builtin kinds are their names; other kinds are objects with the name as content. -/
def json : FaultKind → Json
  | named name => .object [("named", .string name)]
  | builtin => .string builtin.name

/-- The alternatives a kind is decoded from. -/
def alternative (name : String) : Option (Alternative FaultKind) :=
  if name = "named" then
    some (.carrying fun medium draft => (Decoder.string medium draft).map named)
  else (builtins.find? (·.name = name)).map .plain

def decode : Decoder FaultKind := decodeChoice alternative

/-- A kind from its name, or from an object that names a kind of its own. -/
def ofJson : Json → FaultKind
  | .string name => ofName name
  | json => named (json.str "named")

/-- Several kinds. -/
def listJson (kinds : List FaultKind) : Json := .array (kinds.map json)

/-- The names of kinds between square brackets. -/
def listText (kinds : List FaultKind) : String := Text.bracketed (kinds.map name)

end FaultKind

/-- A failure reported by an operation, with the chain of faults that caused it. -/
inductive Fault where
  | mk (kind : FaultKind) (message : String) (cause : Option Fault)
  deriving Repr, Inhabited

namespace Fault

/-- A fault without a cause. -/
def of (kind : FaultKind) (message : String) : Fault := mk kind message none

def kind : Fault → FaultKind
  | mk kind _ _ => kind

def message : Fault → String
  | mk _ message _ => message

def cause : Fault → Option Fault
  | mk _ _ cause => cause

/-- The same fault caused by another one. -/
def withCause (fault cause : Fault) : Fault := mk fault.kind fault.message (some cause)

/-- The kind and the message. -/
def text (fault : Fault) : String := fault.kind.name ++ ": " ++ fault.message

/-- Whether the fault itself is of a kind. -/
def isKind (fault : Fault) (kind : FaultKind) : Bool := fault.kind = kind

/-- Whether the fault or its direct cause is of a kind. -/
def involves (fault : Fault) (kind : FaultKind) : Bool :=
  fault.isKind kind || fault.cause.any (·.isKind kind)

/-- Whether the fault or its direct cause is of one of several kinds. -/
def involvesAny (fault : Fault) (kinds : List FaultKind) : Bool := kinds.any fault.involves

/-- The faults behind a fault, nearest first. -/
def causes : Fault → List Fault
  | mk _ _ none => []
  | mk _ _ (some cause) => cause :: cause.causes

/-- A fault from its kind, or from the name of a builtin one, its message and its cause. -/
def ofJson (json : Json) : Fault :=
  let kind := match json.str? "ctor" with
    | some name => FaultKind.ofName name
    | none => FaultKind.ofJson (json.get "kind")
  let fault := of kind (json.str "message")
  match _h : json.member? "cause" with
  | none | some .null => fault
  | some cause => fault.withCause (ofJson cause)
  termination_by sizeOf json
  decreasing_by exact Json.sizeOf_member _h

def json : Fault → Json
  | mk kind message none =>
    .object [("kind", kind.json), ("message", .string message), ("cause", .null)]
  | mk kind message (some cause) =>
    .object [("kind", kind.json), ("message", .string message), ("cause", cause.json)]

end Fault

end Resilience
