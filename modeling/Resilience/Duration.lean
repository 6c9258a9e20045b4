import Resilience.Json.Access

/-!
# Lengths of time and points in time

A duration is a whole number of nanoseconds, and an instant is the number of nanoseconds since the
start. The clock of an event loop counts whole milliseconds; `Instant.ofMillis` places its readings
on the exact scale, and `Duration.waitMillis` is the number of clock readings a wait takes.

## Main definitions

* `Duration`, `Duration.ofMillis`, `Duration.ofParts` — exact lengths of time
* `Duration.millis` — whole milliseconds, the rest dropped
* `Duration.wait`, `Duration.waitMillis` — how long a timer waits for a duration
* `Duration.text` — the text in the largest fitting unit
* `Duration.json`, `Duration.ofJson` — durations as documents
* `Instant` — exact points in time
-/

namespace Resilience

/-- A length of time, exact to the nanosecond. -/
structure Duration where
  nanos : Nat
  deriving DecidableEq, Repr, Inhabited

/-- A point in time: the nanoseconds since the start. -/
abbrev Instant := Nat

namespace Duration

def nanosPerMilli : Nat := 1000000
def nanosPerSecond : Nat := 1000000000

def ofMillis (millis : Nat) : Duration := ⟨millis * nanosPerMilli⟩
def ofSeconds (seconds : Nat) : Duration := ⟨seconds * nanosPerSecond⟩

/-- Whole seconds and the nanoseconds beyond them. -/
def ofParts (seconds nanos : Nat) : Duration := ⟨seconds * nanosPerSecond + nanos⟩

def zero : Duration := ⟨0⟩

instance : LT Duration := ⟨fun a b => a.nanos < b.nanos⟩
instance : LE Duration := ⟨fun a b => a.nanos ≤ b.nanos⟩
instance (a b : Duration) : Decidable (a < b) := inferInstanceAs (Decidable (a.nanos < b.nanos))
instance (a b : Duration) : Decidable (a ≤ b) := inferInstanceAs (Decidable (a.nanos ≤ b.nanos))

/-- The whole milliseconds of a duration. -/
def millis (d : Duration) : Nat := d.nanos / nanosPerMilli

theorem millis_ofMillis (millis : Nat) : (ofMillis millis).millis = millis :=
  Nat.mul_div_cancel _ (by decide)

/-- The least number of whole milliseconds that covers a duration. -/
def ceilMillis (d : Duration) : Nat := (d.nanos + (nanosPerMilli - 1)) / nanosPerMilli

/-- The longest time a timer waits, thirty years of 365 days. Every longer wait is cut at it, also
where the clock could tell the end of the longer wait; a timer of the clock itself would fall back to
thirty years only where it could not. -/
def longestWait : Duration := ofSeconds (30 * 365 * 24 * 60 * 60)

/-- The time a timer waits when it is set for a duration. -/
def wait (d : Duration) : Duration := if longestWait < d then longestWait else d

/-- The number of clock readings that a timer set for a duration waits. -/
def waitMillis (d : Duration) : Nat := d.wait.ceilMillis

def seconds (d : Duration) : Nat := d.nanos / nanosPerSecond

/-- The nanoseconds beyond the whole seconds. -/
def subsecNanos (d : Duration) : Nat := d.nanos % nanosPerSecond

/-- `whole` and the decimal places of `fraction / 10 ^ places`, without trailing zeros. -/
def decimalText (whole fraction places : Nat) : String :=
  let digits := Nat.toDigits 10 fraction
  let padded := List.replicate (places - digits.length) '0' ++ digits
  let significant := (padded.reverse.dropWhile (· = '0')).reverse
  if significant.isEmpty then toString whole
  else toString whole ++ "." ++ String.ofList significant

/-- The text of a duration: an exact decimal in seconds, or in the largest of milliseconds,
microseconds and nanoseconds that gives a whole part. -/
def text (d : Duration) : String :=
  if 0 < d.seconds then decimalText d.seconds d.subsecNanos 9 ++ "s"
  else if nanosPerMilli ≤ d.nanos then
    decimalText (d.nanos / nanosPerMilli) (d.nanos % nanosPerMilli) 6 ++ "ms"
  else if 1000 ≤ d.nanos then decimalText (d.nanos / 1000) (d.nanos % 1000) 3 ++ "µs"
  else decimalText d.nanos 0 0 ++ "ns"

/-- The whole seconds and the nanoseconds beyond them. -/
def json (d : Duration) : Json := .array [.natural d.seconds, .natural d.subsecNanos]

/-- A duration from whole milliseconds, or from whole seconds and the nanoseconds beyond them. -/
def ofJson : Json → Duration
  | .array [seconds, nanos] => ofParts seconds.toNat nanos.toNat
  | json => ofMillis json.toNat

/-- A duration that may be absent. -/
def ofJson? : Json → Option Duration
  | .null => none
  | json => some (ofJson json)

end Duration

namespace Instant

/-- The instant of a clock reading in whole milliseconds. -/
def ofMillis (millis : Nat) : Instant := millis * Duration.nanosPerMilli

end Instant

end Resilience
