import Resilience.Blake3
import Resilience.Json.Decode
import Resilience.Text.Record

/-!
# Units of work

A unit of work names an action and carries a payload. Attempts on a unit are counted under its
retry key, which joins the action, the id and a fingerprint of the payload.

## Main definitions

* `WorkUnit` — id, action, source and payload
* `WorkUnit.fingerprint` — the first sixteen hexadecimal digits of the payload's digest
* `WorkUnit.retryKey` — the key under which attempts are counted
-/

namespace Resilience

/-- Payloads are compared as in the core library, whatever else is imported. -/
instance (priority := 10000) payloadDecidableEq : DecidableEq ByteArray :=
  ByteArray.instDecidableEq

/-- A unit of work. -/
structure WorkUnit where
  id : String
  action : String
  source : Option String
  payload : ByteArray
  deriving DecidableEq, Inhabited

/-- The key under which attempts are counted. -/
abbrev RetryKey := String

/-- The number of hexadecimal digits of a fingerprint. -/
def fingerprintLength : Nat := 16

/-- The leading hexadecimal digits of a payload's digest. -/
def fingerprint (payload : ByteArray) : String :=
  String.ofList ((Blake3.hex payload).toList.take fingerprintLength)

namespace WorkUnit

/-- The fingerprint of the payload. -/
def fingerprint (unit : WorkUnit) : String := Resilience.fingerprint unit.payload

/-- Action, id and fingerprint, separated by colons. -/
def retryKey (unit : WorkUnit) : RetryKey :=
  unit.action ++ ":" ++ unit.id ++ ":" ++ unit.fingerprint

/-- The payload as text, if it is valid UTF-8. -/
def payloadText? (unit : WorkUnit) : Option String := String.fromUTF8? unit.payload

/-- The description shows the payload by its length only. -/
def description (unit : WorkUnit) : String :=
  Text.record "UnitOfWork"
    [("id", Text.quoted unit.id), ("action", Text.quoted unit.action),
     ("source", Text.quotedOption unit.source), ("payload_len", toString unit.payload.size)]

def json (unit : WorkUnit) : Json :=
  .object [("id", .string unit.id), ("action", .string unit.action),
    ("source", .ofText? unit.source),
    ("payload", .array (unit.payload.toList.map fun byte => .natural byte.toNat))]

/-- The fields a unit is decoded from. -/
def fields : List (Field WorkUnit) :=
  [.of "id" Decoder.string fun unit id => { unit with id },
   .of "action" Decoder.string fun unit action => { unit with action },
   .of "source" (Decoder.optional Decoder.string) (fun unit source => { unit with source }) true,
   .of "payload" (Decoder.list Decoder.byte) fun unit payload =>
     { unit with payload := ⟨payload.toArray⟩ }]

def decode : Decoder WorkUnit := decodeRecord ⟨false, false⟩ fields ⟨"", "", none, .empty⟩

end WorkUnit

end Resilience
