import Resilience.Json.Decode

/-!
# Backoff strategies

How the delay before a retry grows with the attempt that failed.

## Main definitions

* `Backoff` — the strategies
* `Backoff.isBounded`, `Backoff.usesEntropy` — whether the greatest delay bounds a strategy, and
  whether it draws random numbers
-/

namespace Resilience

/-- How the delay before a retry grows. -/
inductive Backoff where
  | fixed
  | linear
  | exponential
  | exponentialJitter
  | random
  deriving DecidableEq, Repr, Inhabited

namespace Backoff

def name : Backoff → String
  | fixed => "fixed"
  | linear => "linear"
  | exponential => "exponential"
  | exponentialJitter => "exponential_jitter"
  | random => "random"

/-- The name in upper case, which is accepted as well. -/
def upperName : Backoff → String
  | fixed => "FIXED"
  | linear => "LINEAR"
  | exponential => "EXPONENTIAL"
  | exponentialJitter => "EXPONENTIAL_JITTER"
  | random => "RANDOM"

/-- The name inside a description of a record. -/
def description : Backoff → String
  | fixed => "Fixed"
  | linear => "Linear"
  | exponential => "Exponential"
  | exponentialJitter => "ExponentialJitter"
  | random => "Random"

def all : List Backoff := [fixed, linear, exponential, exponentialJitter, random]

/-- The strategy of that name, in either case. -/
def ofName? (name : String) : Option Backoff :=
  all.find? fun strategy => strategy.name = name || strategy.upperName = name

/-- Whether the greatest delay bounds the strategy's delays. -/
def isBounded (strategy : Backoff) : Bool := strategy ≠ random

/-- Whether the strategy may draw random numbers. -/
def usesEntropy (strategy : Backoff) : Bool := strategy = exponentialJitter || strategy = random

def json (strategy : Backoff) : Json := .string strategy.name

def decode : Decoder Backoff := decodeChoice fun name => (ofName? name).map .plain

end Backoff

end Resilience
