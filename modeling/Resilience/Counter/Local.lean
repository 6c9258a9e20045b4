import Resilience.Duration
import Resilience.Failure
import Resilience.Table

/-!
# Counters kept in the process

A counter in the process keeps a count for each key, and with it the instant at which the count
expires. An expired count reads as absent, and the next increment starts it again from one. A
sweeper, if there is one, removes expired counts at regular ticks.

## Main definitions

* `Count` — a count and its expiry
* `LocalConfig` — the default time to live and the interval of the sweeper
* `LocalCounter` — the counts and the sweeper
* `LocalCounter.increment`, `count`, `reset`, `sweep`, `purge` — the operations
* `LocalCounter.elapse` — what the sweeper does while time passes
* `checkTtl` — times to live have a greatest value
-/

namespace Resilience

/-- The greatest time to live of a count, seven days. -/
def greatestTtl : Duration := .ofSeconds (7 * 24 * 60 * 60)

/-- Refuses a time to live that is too long. -/
def checkTtl (ttl : Option Duration) : Except Failure Unit :=
  match ttl with
  | none => .ok ()
  | some ttl => if greatestTtl < ttl then .error (.ttlTooLong ttl greatestTtl) else .ok ()

/-- A count and the instant from which it no longer holds. -/
structure Count where
  value : Nat
  expiresAt : Option Instant
  deriving DecidableEq, Repr, Inhabited

/-- Whether an expiry has been reached. -/
def isExpired (expiresAt : Option Instant) (now : Instant) : Bool :=
  expiresAt.any (· ≤ now)

/-- The default time to live of counts and the interval of the sweeper. -/
structure LocalConfig where
  defaultTtl : Option Duration := some (.ofSeconds 3600)
  sweepInterval : Duration := .ofSeconds 60
  deriving DecidableEq, Repr, Inhabited

/-- The sweeper's shortest interval. -/
def shortestSweep : Duration := .ofMillis 1

/-- Sets the sweeper's interval to one that is not too short. -/
def LocalConfig.withSweepInterval (config : LocalConfig) (interval : Duration) : LocalConfig :=
  { config with sweepInterval := if interval < shortestSweep then shortestSweep else interval }

/-- A sweeper ticks whenever another period has passed since its start. -/
structure Sweeper where
  startedAt : Instant
  period : Duration
  deriving DecidableEq, Repr

/-- The last tick up to an instant, on the clock's scale of whole milliseconds. -/
def Sweeper.lastTick? (sweeper : Sweeper) (now : Instant) : Option Instant :=
  let ticks := (now - sweeper.startedAt) / sweeper.period.nanos
  if ticks = 0 then none
  else
    let deadline : Duration := ⟨sweeper.startedAt + ticks * sweeper.period.nanos⟩
    some (Instant.ofMillis deadline.ceilMillis)

/-- Counts kept in the process. -/
structure LocalCounter where
  counts : Table String Count := {}
  sweeper : Option Sweeper := none
  deriving Inhabited

namespace LocalCounter

/-- An empty counter, with a sweeper if a loop runs that can drive one. -/
def start (config : LocalConfig) (now : Instant) (sweeping : Bool) : LocalCounter where
  sweeper :=
    if sweeping then
      some ⟨now, (config.withSweepInterval config.sweepInterval).sweepInterval.wait⟩
    else none

/-- The greatest count. -/
def greatestCount : Nat := 2 ^ 64 - 1

/-- Counts one more for a key, and sets its expiry from the time to live. -/
def increment (counter : LocalCounter) (key : String) (ttl : Option Duration) (now : Instant) :
    Nat × LocalCounter :=
  -- a count that has expired begins again
  let before := match counter.counts.find? key with
    | none => 0
    | some count => if isExpired count.expiresAt now then 0 else count.value
  let value := min (before + 1) greatestCount
  let expiresAt := ttl.map fun ttl => now + ttl.nanos
  (value, { counter with counts := counter.counts.insert key ⟨value, expiresAt⟩ })

/-- The count of a key, if there is one that holds. -/
def live? (counter : LocalCounter) (key : String) (now : Instant) : Option Nat :=
  match counter.counts.find? key with
  | none => none
  | some count => if isExpired count.expiresAt now then none else some count.value

/-- The count of a key, zero if none holds. -/
def count (counter : LocalCounter) (key : String) (now : Instant) : Nat :=
  (counter.live? key now).getD 0

/-- Whether a count of the key holds. -/
def contains (counter : LocalCounter) (key : String) (now : Instant) : Bool :=
  (counter.live? key now).isSome

/-- Removes the count of a key. -/
def reset (counter : LocalCounter) (key : String) : LocalCounter :=
  { counter with counts := counter.counts.erase key }

/-- The number of counts kept, expired ones included. -/
def size (counter : LocalCounter) : Nat := counter.counts.size

/-- Removes the counts that have expired. -/
def sweep (counter : LocalCounter) (now : Instant) : LocalCounter :=
  { counter with counts := counter.counts.keepWhere fun count => !isExpired count.expiresAt now }

/-- Removes the counts that have expired, and tells how many there were. -/
def purge (counter : LocalCounter) (now : Instant) : Nat × LocalCounter :=
  let swept := counter.sweep now
  (counter.size - swept.size, swept)

def isSweeping (counter : LocalCounter) : Bool := counter.sweeper.isSome

/-- Stops the sweeper. -/
def close (counter : LocalCounter) : LocalCounter := { counter with sweeper := none }

/-- What the sweeper does while time passes and no count changes: of the ticks in between, the last
one removes all that the earlier ones would remove. -/
def elapse (counter : LocalCounter) (before after : Instant) : LocalCounter :=
  match counter.sweeper.bind (·.lastTick? after) with
  | none => counter
  | some tick => if before < tick then counter.sweep tick else counter

end LocalCounter

end Resilience
