import Resilience.Breaker.Circuit
import Resilience.Json.Decode
import Resilience.Timestamp

/-!
# Stored audit entries

Entries about circuits and units of work as they are stored, with the time of the event.

## Main definitions

* `Stage` — the stages of a unit's life that are reported
* `LifecycleEntry`, `TransitionEntry` — the entries
-/

namespace Resilience

/-- A timestamp from its written form. -/
def Timestamp.decode : Decoder Timestamp := fun medium draft => do
  let text ← Decoder.string medium draft
  match Timestamp.read? text with
  | some timestamp => pure timestamp
  | none => throw .malformed

/-- A stage in the life of a unit that is reported. -/
inductive Stage where
  | retryScheduled
  | gaveUp
  | compensationFailed
  | unitAbandoned
  deriving DecidableEq, Repr, Inhabited

namespace Stage

def name : Stage → String
  | retryScheduled => "retry_scheduled"
  | gaveUp => "gave_up"
  | compensationFailed => "compensation_failed"
  | unitAbandoned => "unit_abandoned"

def all : List Stage := [retryScheduled, gaveUp, compensationFailed, unitAbandoned]

def json (stage : Stage) : Json := .string stage.name

def decode : Decoder Stage := decodeChoice fun name => (all.find? (·.name = name)).map .plain

end Stage

/-- A stored entry about a unit. -/
structure LifecycleEntry where
  stage : Stage := .retryScheduled
  timestamp : Timestamp := ⟨0, 0⟩
  unitId : String := ""
  action : String := ""
  source : Option String := none
  attempt : UInt32 := 0
  faultKind : Option String := none
  fault : Option String := none
  deriving DecidableEq, Repr

namespace LifecycleEntry

def json (entry : LifecycleEntry) : Json :=
  .object [("stage", entry.stage.json), ("timestamp", .string entry.timestamp.text),
    ("unit_id", .string entry.unitId), ("action", .string entry.action),
    ("source", .ofText? entry.source), ("attempt", .natural entry.attempt.toNat),
    ("error_kind", .ofText? entry.faultKind), ("error", .ofText? entry.fault)]

/-- The fields an entry is decoded from. -/
def fields : List (Field LifecycleEntry) :=
  [.of "stage" Stage.decode fun entry stage => { entry with stage },
   .of "timestamp" Timestamp.decode fun entry timestamp => { entry with timestamp },
   .of "unit_id" Decoder.string fun entry unitId => { entry with unitId },
   .of "action" Decoder.string fun entry action => { entry with action },
   .of "source" (Decoder.optional Decoder.string) (fun entry source => { entry with source }) true,
   .of "attempt" Decoder.word32 fun entry attempt => { entry with attempt },
   .of "error_kind" (Decoder.optional Decoder.string)
     (fun entry faultKind => { entry with faultKind }) true,
   .of "error" (Decoder.optional Decoder.string) (fun entry fault => { entry with fault }) true]

def decode : Decoder LifecycleEntry := decodeRecord ⟨false, false⟩ fields {}

end LifecycleEntry

/-- A stored entry about a circuit. -/
structure TransitionEntry where
  timestamp : Timestamp := ⟨0, 0⟩
  transition : Transition := ⟨"", .closed, .closed⟩
  deriving DecidableEq, Repr

namespace TransitionEntry

/-- The type of entries about circuits. -/
def kind : String := "circuit_state_transition"

def json (entry : TransitionEntry) : Json :=
  .object [("timestamp", .string entry.timestamp.text),
    ("breaker", .string entry.transition.breaker), ("from", entry.transition.before.json),
    ("to", entry.transition.after.json)]

/-- The fields an entry is decoded from. -/
def fields : List (Field TransitionEntry) :=
  [.of "timestamp" Timestamp.decode fun entry timestamp => { entry with timestamp },
   .of "breaker" Decoder.string fun entry breaker =>
     { entry with transition := { entry.transition with breaker } },
   .of "from" Circuit.decode fun entry before =>
     { entry with transition := { entry.transition with before } },
   .of "to" Circuit.decode fun entry after =>
     { entry with transition := { entry.transition with after } }]

def decode : Decoder TransitionEntry := decodeRecord ⟨false, false⟩ fields {}

end TransitionEntry

end Resilience
