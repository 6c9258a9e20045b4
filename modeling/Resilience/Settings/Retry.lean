import Resilience.Retry.Policy
import Resilience.Settings.Fault

/-!
# Settings of retry policies

Settings are the written form of a retry policy: delays in whole milliseconds and two lists of kinds
by name, those to retry and those not to. Any subset of the fields may be given.

## Main definitions

* `RetrySettings` — the settings
* `RetrySettings.policy` — the policy of settings
* `RetrySettings.decode` — settings from a JSON document
-/

namespace Resilience

/-- The written form of a retry policy. -/
structure RetrySettings where
  maxAttempts : UInt32
  baseDelay : UInt64
  maxDelay : UInt64
  multiplier : Binary64
  strategy : Backoff
  jitter : Binary64
  retried : List String
  ignored : List String
  deriving DecidableEq, Repr

namespace RetrySettings

/-- The settings of the default policy. -/
def default : RetrySettings :=
  let policy : RetryPolicy := {}
  { maxAttempts := policy.maxAttempts
    baseDelay := millisSetting policy.baseDelay
    maxDelay := millisSetting policy.maxDelay
    multiplier := policy.multiplier
    strategy := policy.strategy
    jitter := policy.jitter
    retried := []
    ignored := [] }

instance : Inhabited RetrySettings := ⟨default⟩

/-- The rule of the two lists of names; an empty list has no say. -/
def rule (settings : RetrySettings) : RetryRule :=
  let retried := settings.retried.map FaultKind.ofName
  let ignored := settings.ignored.map FaultKind.ofName
  match retried.isEmpty, ignored.isEmpty with
  | true, true => .always
  | false, true => .onKinds retried
  | true, false => .exceptKinds ignored
  | false, false => .both (.onKinds retried) (.exceptKinds ignored)

/-- The policy of settings, or the first fault in them. -/
def policy (settings : RetrySettings) : Except SettingsFault RetryPolicy :=
  if settings.maxDelay < settings.baseDelay then
    .error (.baseExceedsMax settings.baseDelay.toNat settings.maxDelay.toNat)
  else if !settings.multiplier.isFinite || settings.multiplier.lt 1 then
    .error (.multiplierTooSmall settings.multiplier)
  else if !settings.jitter.within 0 1 then .error (.jitterOutOfRange settings.jitter)
  else
    .ok
      { maxAttempts := settings.maxAttempts
        baseDelay := .ofMillis settings.baseDelay.toNat
        maxDelay := .ofMillis settings.maxDelay.toNat
        multiplier := settings.multiplier
        strategy := settings.strategy
        jitter := settings.jitter
        rule := settings.rule }

/-- The fields in their declared order. -/
def fields : List (Field RetrySettings) :=
  [.of "maxAttempts" Decoder.word32 fun settings maxAttempts => { settings with maxAttempts },
   .of "baseDelay" Decoder.word64 fun settings baseDelay => { settings with baseDelay },
   .of "maxDelay" Decoder.word64 fun settings maxDelay => { settings with maxDelay },
   .of "backoffMultiplier" Decoder.number fun settings multiplier => { settings with multiplier },
   .of "backoffStrategy" Backoff.decode fun settings strategy => { settings with strategy },
   .of "jitterFactor" Decoder.number fun settings jitter => { settings with jitter },
   .of "retryOn" (Decoder.list Decoder.string) fun settings retried => { settings with retried },
   .of "ignoreExceptions" (Decoder.list Decoder.string) fun settings ignored =>
     { settings with ignored }]

/-- Settings from a document; fields that are left out keep their defaults, and other fields are
refused. -/
def decode : Decoder RetrySettings := decodeRecord ⟨true, true⟩ fields default

/-- The document of all fields. -/
def json (settings : RetrySettings) : Json :=
  .object [("maxAttempts", .natural settings.maxAttempts.toNat),
    ("baseDelay", .natural settings.baseDelay.toNat),
    ("maxDelay", .natural settings.maxDelay.toNat),
    ("backoffMultiplier", .float settings.multiplier),
    ("backoffStrategy", settings.strategy.json),
    ("jitterFactor", .float settings.jitter),
    ("retryOn", .ofTexts settings.retried),
    ("ignoreExceptions", .ofTexts settings.ignored)]

end RetrySettings

end Resilience
