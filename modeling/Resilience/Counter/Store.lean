import Resilience.Counter.Local

/-!
# Shared stores of counts

A store keeps signed 64-bit counts for the keys of any number of counters. While it is unavailable
every request fails. A store tells how many requests have reached it.

## Main definitions

* `StoredCount` — a value and its expiry
* `CounterStore` — the values, whether the store is available, and the number of requests
* `CounterStore.increment`, `get`, `contains`, `delete` — the requests
* `CounterStore.put`, `setAvailable` — direct access, which is no request
-/

namespace Resilience

/-- A stored value and the instant from which it no longer holds. -/
structure StoredCount where
  value : Int
  expiresAt : Option Instant
  deriving DecidableEq, Repr, Inhabited

/-- A store of counts. -/
structure CounterStore where
  counts : Table String StoredCount := {}
  available : Bool := true
  requests : Nat := 0
  deriving Inhabited

namespace CounterStore

/-- The name of the store as a backend. -/
def backend : String := "in-memory"

/-- The failure of a request that reaches an unavailable store. -/
def outage : Failure := .counterBackend backend "store unavailable"

/-- The greatest stored value. -/
def greatestValue : Int := 2 ^ 63 - 1

/-- Counts a request and answers it while the store is available. -/
def request {α : Type} (store : CounterStore) (answer : CounterStore → α × CounterStore) :
    Except Failure α × CounterStore :=
  -- requests count also while the store is unavailable
  let store := { store with requests := store.requests + 1 }
  if store.available then
    let (value, store) := answer store
    (.ok value, store)
  else (.error outage, store)

/-- The value of a key that still holds. -/
def live? (store : CounterStore) (key : String) (now : Instant) : Option Int :=
  match store.counts.find? key with
  | none => none
  | some count => if isExpired count.expiresAt now then none else some count.value

/-- Counts one more for a key, and sets its expiry from the time to live. -/
def increment (store : CounterStore) (key : String) (ttl : Option Duration) (now : Instant) :
    Except Failure Int × CounterStore :=
  store.request fun store =>
    let value := min ((store.live? key now).getD 0 + 1) greatestValue
    let expiresAt := ttl.map fun ttl => now + ttl.nanos
    (value, { store with counts := store.counts.insert key ⟨value, expiresAt⟩ })

/-- The value of a key. -/
def get (store : CounterStore) (key : String) (now : Instant) :
    Except Failure (Option Int) × CounterStore :=
  store.request fun store => (store.live? key now, store)

/-- Whether the store has a value for a key. -/
def contains (store : CounterStore) (key : String) (now : Instant) :
    Except Failure Bool × CounterStore :=
  store.request fun store => ((store.live? key now).isSome, store)

/-- Removes the value of a key. -/
def delete (store : CounterStore) (key : String) : Except Failure Unit × CounterStore :=
  store.request fun store => ((), { store with counts := store.counts.erase key })

/-- Sets a value that does not expire. -/
def put (store : CounterStore) (key : String) (value : Int) : CounterStore :=
  { store with counts := store.counts.insert key ⟨value, none⟩ }

def setAvailable (store : CounterStore) (available : Bool) : CounterStore :=
  { store with available }

end CounterStore

end Resilience
