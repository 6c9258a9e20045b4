import Resilience.Breaker.Config
import Resilience.Settings.Fault

/-!
# Settings of circuit breakers

Settings are the written form of a breaker's configuration: durations in whole milliseconds, kinds
by name and field names of their own. Any subset of the fields may be given.

## Main definitions

* `BreakerSettings` — the settings
* `BreakerSettings.ofConfig`, `BreakerSettings.config` — to and from a configuration
* `BreakerSettings.decode` — settings from a JSON document
-/

namespace Resilience

/-- The written form of a breaker's configuration. -/
structure BreakerSettings where
  rateThreshold : Binary64
  countThreshold : UInt32
  minimumCalls : UInt32
  windowSize : UInt64
  openWait : UInt64
  permittedProbes : UInt32
  callTimeout : UInt64
  automaticProbing : Bool
  ignored : List String
  recorded : List String
  deriving DecidableEq, Repr

namespace BreakerSettings

/-- The settings of a configuration. -/
def ofConfig (config : BreakerConfig) : BreakerSettings where
  rateThreshold := config.rateThreshold
  countThreshold := config.countThreshold
  minimumCalls := config.minimumCalls
  windowSize := millisSetting config.windowSize
  openWait := millisSetting config.openWait
  permittedProbes := config.permittedProbes
  callTimeout := millisSetting config.callTimeout
  automaticProbing := config.automaticProbing
  ignored := config.filter.ignored.map FaultKind.name
  recorded := config.filter.recorded.map FaultKind.name

/-- The settings of the default configuration. -/
def default : BreakerSettings := ofConfig {}

instance : Inhabited BreakerSettings := ⟨default⟩

/-- The configuration of settings, or the first fault in them. -/
def config (settings : BreakerSettings) : Except SettingsFault BreakerConfig :=
  if !settings.rateThreshold.within 0 1 then .error (.rateOutOfRange settings.rateThreshold)
  else if settings.countThreshold = 0 then .error .zeroCountThreshold
  else if settings.permittedProbes = 0 then .error .zeroPermittedCalls
  else if settings.windowSize = 0 then .error .zeroWindow
  else
    .ok
      { rateThreshold := settings.rateThreshold
        countThreshold := settings.countThreshold
        minimumCalls := settings.minimumCalls
        windowSize := .ofMillis settings.windowSize.toNat
        openWait := .ofMillis settings.openWait.toNat
        permittedProbes := settings.permittedProbes
        callTimeout := .ofMillis settings.callTimeout.toNat
        automaticProbing := settings.automaticProbing
        filter := ⟨settings.ignored.map FaultKind.ofName, settings.recorded.map FaultKind.ofName⟩ }

/-- Equality of settings, with rates compared as numbers. -/
def same (a b : BreakerSettings) : Bool :=
  a.rateThreshold.same b.rateThreshold && ({ a with rateThreshold := b.rateThreshold } : _) = b

/-- The fields in their declared order. -/
def fields : List (Field BreakerSettings) :=
  [.of "failureRateThreshold" Decoder.number fun settings rateThreshold =>
     { settings with rateThreshold },
   .of "failureCountThreshold" Decoder.word32 fun settings countThreshold =>
     { settings with countThreshold },
   .of "minimumNumberOfCalls" Decoder.word32 fun settings minimumCalls =>
     { settings with minimumCalls },
   .of "slidingWindowSize" Decoder.word64 fun settings windowSize => { settings with windowSize },
   .of "waitDurationInOpenState" Decoder.word64 fun settings openWait =>
     { settings with openWait },
   .of "permittedNumberOfCallsInHalfOpenState" Decoder.word32 fun settings permittedProbes =>
     { settings with permittedProbes },
   .of "timeoutDuration" Decoder.word64 fun settings callTimeout => { settings with callTimeout },
   .of "automaticTransitionFromOpenToHalfOpen" Decoder.boolean fun settings automaticProbing =>
     { settings with automaticProbing },
   .of "ignoreExceptions" (Decoder.list Decoder.string) fun settings ignored =>
     { settings with ignored },
   .of "recordFailurePredicate" (Decoder.list Decoder.string) fun settings recorded =>
     { settings with recorded }]

/-- Settings from a document; fields that are left out keep their defaults, and other fields are
refused. -/
def decode : Decoder BreakerSettings := decodeRecord ⟨true, true⟩ fields default

/-- The document of all fields. -/
def json (settings : BreakerSettings) : Json :=
  .object [("failureRateThreshold", .float settings.rateThreshold),
    ("failureCountThreshold", .natural settings.countThreshold.toNat),
    ("minimumNumberOfCalls", .natural settings.minimumCalls.toNat),
    ("slidingWindowSize", .natural settings.windowSize.toNat),
    ("waitDurationInOpenState", .natural settings.openWait.toNat),
    ("permittedNumberOfCallsInHalfOpenState", .natural settings.permittedProbes.toNat),
    ("timeoutDuration", .natural settings.callTimeout.toNat),
    ("automaticTransitionFromOpenToHalfOpen", .bool settings.automaticProbing),
    ("ignoreExceptions", .ofTexts settings.ignored),
    ("recordFailurePredicate", .ofTexts settings.recorded)]

end BreakerSettings

end Resilience
