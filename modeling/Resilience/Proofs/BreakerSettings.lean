import Resilience.Proofs.Binary64.Order
import Resilience.Settings.Breaker
import Mathlib.Data.List.Basic

/-!
# Settings and configurations of breakers

Settings write down in whole milliseconds and in names what a configuration keeps as exact durations
and as kinds. The settings that have a configuration are those with a rate between zero and one and
with positive counts and windows; nothing of them is lost, whatever names they list. The other way
around something may be: fractions of a millisecond, lengths beyond the greatest word, and that a
kind is not the builtin kind whose name it has. A configuration without any of these is that of its
settings.

## Main definitions

* `Duration.FitsWord` — lengths of whole milliseconds that settings can write down
* `FaultKind.IsGenuine` — kinds that can be told by their names
* `BreakerSettings.Acceptable`, `BreakerConfig.Writable` — what survives the way there and back

## Main statements

* `BreakerSettings.exists_config_iff` — which settings have a configuration
* `BreakerSettings.ofConfig_of_config`, `BreakerSettings.config_ofConfig` — the two ways back
* `BreakerSettings.config_inverse` — settings and configurations are inverse to each other
-/

namespace Resilience

/-! ## Lengths of time -/

namespace Duration

/-- A length of whole milliseconds, so many as a 64-bit word can count. -/
def FitsWord (duration : Duration) : Prop := ∃ millis < 2 ^ 64, duration = .ofMillis millis

end Duration

theorem millisSetting_ofMillis (setting : UInt64) :
    millisSetting (.ofMillis setting.toNat) = setting := by
  have fits := setting.toNat_lt
  rw [millisSetting, Duration.millis_ofMillis, Nat.min_eq_left (by omega)]
  exact UInt64.ofNat_toNat

theorem ofMillis_millisSetting {duration : Duration} (fits : duration.FitsWord) :
    .ofMillis (millisSetting duration).toNat = duration := by
  obtain ⟨millis, small, rfl⟩ := fits
  rw [millisSetting, Duration.millis_ofMillis, Nat.min_eq_left (by omega)]
  exact congrArg _ (UInt64.toNat_ofNat_of_lt' small)

/-! ## Kinds of faults -/

namespace FaultKind

/-- A builtin kind, or one with a name that no builtin kind has. -/
def IsGenuine (kind : FaultKind) : Prop :=
  ∀ name, kind = named name → ∀ builtin ∈ builtins, builtin.name ≠ name

theorem name_ofName (name : String) : (ofName name).name = name := by
  rw [ofName]
  cases found : builtins.find? (·.name = name) with
  | none => rfl
  | some builtin => simpa using List.find?_some found

theorem ofName_name {kind : FaultKind} (genuine : kind.IsGenuine) : ofName kind.name = kind := by
  cases kind with
  | named name =>
    have unknown : builtins.find? (·.name = name) = none :=
      List.find?_eq_none.mpr fun builtin known => by simpa using genuine name rfl builtin known
    rw [FaultKind.name, ofName, unknown, Option.getD_none]
  | _ => decide

theorem map_name_ofName (names : List String) : (names.map ofName).map name = names := by
  rw [List.map_map]
  exact (List.map_congr_left fun name _ => name_ofName name).trans names.map_id

theorem map_ofName_name {kinds : List FaultKind} (genuine : ∀ kind ∈ kinds, kind.IsGenuine) :
    (kinds.map name).map ofName = kinds := by
  rw [List.map_map]
  exact (List.map_congr_left fun kind listed => ofName_name (genuine kind listed)).trans kinds.map_id

end FaultKind

/-! ## Settings and configurations -/

/-- A configuration that settings can write down and that they accept: a rate between zero and one,
positive counts, a window of a millisecond or more, whole durations and genuine kinds. -/
structure BreakerConfig.Writable (config : BreakerConfig) : Prop where
  rate : config.rateThreshold.IsShare
  count : 1 ≤ config.countThreshold
  probes : 1 ≤ config.permittedProbes
  window : .ofMillis 1 ≤ config.windowSize
  windowFits : config.windowSize.FitsWord
  waitFits : config.openWait.FitsWord
  timeoutFits : config.callTimeout.FitsWord
  ignored : ∀ kind ∈ config.filter.ignored, kind.IsGenuine
  recorded : ∀ kind ∈ config.filter.recorded, kind.IsGenuine

namespace BreakerSettings

/-- Settings with a rate between zero and one and with positive counts and windows. -/
structure Acceptable (settings : BreakerSettings) : Prop where
  rate : settings.rateThreshold.IsShare
  count : 1 ≤ settings.countThreshold
  probes : 1 ≤ settings.permittedProbes
  window : 1 ≤ settings.windowSize

variable {settings : BreakerSettings} {config : BreakerConfig}

/-- What settings say as a configuration, acceptable or not. -/
def reading (settings : BreakerSettings) : BreakerConfig where
  rateThreshold := settings.rateThreshold
  countThreshold := settings.countThreshold
  minimumCalls := settings.minimumCalls
  windowSize := .ofMillis settings.windowSize.toNat
  openWait := .ofMillis settings.openWait.toNat
  permittedProbes := settings.permittedProbes
  callTimeout := .ofMillis settings.callTimeout.toNat
  automaticProbing := settings.automaticProbing
  filter := ⟨settings.ignored.map FaultKind.ofName, settings.recorded.map FaultKind.ofName⟩

theorem config_of_acceptable (acceptable : settings.Acceptable) :
    settings.config = .ok settings.reading := by
  have rate := Binary64.within_zero_one_iff.mpr acceptable.rate
  have count : settings.countThreshold ≠ 0 := fun zero => by simpa [zero] using acceptable.count
  have probes : settings.permittedProbes ≠ 0 := fun zero => by simpa [zero] using acceptable.probes
  have window : settings.windowSize ≠ 0 := fun zero => by simpa [zero] using acceptable.window
  rw [config, rate, Bool.not_true, if_neg Bool.false_ne_true, if_neg count, if_neg probes,
    if_neg window]
  rfl

theorem acceptable_of_config (converts : settings.config = .ok config) : settings.Acceptable := by
  rw [BreakerSettings.config] at converts
  split_ifs at converts with rate count probes window
  have word32 {n : UInt32} (nonzero : n ≠ 0) : 1 ≤ n := by
    have := mt UInt32.toNat_inj.mp nonzero
    simpa [UInt32.le_iff_toNat_le, Nat.one_le_iff_ne_zero] using this
  have word64 {n : UInt64} (nonzero : n ≠ 0) : 1 ≤ n := by
    have := mt UInt64.toNat_inj.mp nonzero
    simpa [UInt64.le_iff_toNat_le, Nat.one_le_iff_ne_zero] using this
  exact ⟨Binary64.within_zero_one_iff.mp (by simpa using rate), word32 count, word32 probes,
    word64 window⟩

theorem exists_config_iff : (∃ config, settings.config = .ok config) ↔ settings.Acceptable :=
  ⟨fun ⟨_, converts⟩ => acceptable_of_config converts,
    fun acceptable => ⟨_, config_of_acceptable acceptable⟩⟩

/-- Nothing that settings say gets lost in a configuration. -/
theorem ofConfig_reading (settings : BreakerSettings) : ofConfig settings.reading = settings := by
  simp only [ofConfig, reading, millisSetting_ofMillis, FaultKind.map_name_ofName]

theorem ofConfig_of_config (converts : settings.config = .ok config) :
    ofConfig config = settings := by
  rw [config_of_acceptable (acceptable_of_config converts)] at converts
  obtain rfl := Except.ok.inj converts
  exact settings.ofConfig_reading

/-- What settings say about a configuration is all of it, if they can write it down. -/
theorem reading_ofConfig (writable : config.Writable) : (ofConfig config).reading = config := by
  simp only [ofConfig, reading, ofMillis_millisSetting writable.windowFits,
    ofMillis_millisSetting writable.waitFits, ofMillis_millisSetting writable.timeoutFits,
    FaultKind.map_ofName_name writable.ignored, FaultKind.map_ofName_name writable.recorded]

/-- The settings of a configuration are acceptable if they can write it down. -/
theorem acceptable_ofConfig (writable : config.Writable) : (ofConfig config).Acceptable where
  rate := writable.rate
  count := writable.count
  probes := writable.probes
  window := by
    have window : 1 * Duration.nanosPerMilli ≤ config.windowSize.nanos := writable.window
    rw [← ofMillis_millisSetting writable.windowFits] at window
    exact Nat.le_of_mul_le_mul_right window (by decide)

theorem config_ofConfig (writable : config.Writable) : (ofConfig config).config = .ok config := by
  rw [config_of_acceptable (acceptable_ofConfig writable), reading_ofConfig writable]

/-- Settings and configurations are inverse to each other. Settings have a configuration exactly if
their rate is between zero and one and their counts and windows are positive, and then they are the
settings of that configuration; and a configuration within those bounds is that of its settings if
its durations are whole milliseconds that fit a word and none of its kinds has the name of a builtin
kind without being it. -/
theorem config_inverse :
    (∀ settings : BreakerSettings,
      ((∃ config, settings.config = .ok config) ↔ settings.Acceptable) ∧
        ∀ config, settings.config = .ok config → ofConfig config = settings) ∧
      ∀ config : BreakerConfig, config.Writable → (ofConfig config).config = .ok config :=
  ⟨fun _ => ⟨exists_config_iff, fun _ => ofConfig_of_config⟩, fun _ => config_ofConfig⟩

/-- A strict breaker that records a kind of its own, settings that list a builtin kind and another
one, and the same settings without a number for their rate. -/
theorem config_inverse_recording :
    let config := BreakerConfig.strict.recording [.timeout, .named "disk full"]
    let settings := { ofConfig config with ignored := ["conflict", "disk empty"] }
    (config.Writable ∧ (ofConfig config).config = .ok config) ∧
      (∃ other, settings.config = .ok other ∧ ofConfig other = settings) ∧
      ¬ ∃ other, { settings with rateThreshold := .nan }.config = .ok other := by
  intro config settings
  have named : (FaultKind.named "disk full").IsGenuine := by
    rintro name same
    obtain rfl := FaultKind.named.inj same
    decide
  have writable : config.Writable :=
    { rate := by decide +kernel
      count := by decide
      probes := by decide
      window := by decide
      windowFits := ⟨60000, by decide, rfl⟩
      waitFits := ⟨60000, by decide, rfl⟩
      timeoutFits := ⟨10000, by decide, rfl⟩
      ignored := nofun
      recorded := List.forall_mem_cons.mpr ⟨nofun, List.forall_mem_singleton.mpr named⟩ }
  have acceptable : settings.Acceptable :=
    ⟨by decide +kernel, by decide, by decide, by decide⟩
  obtain ⟨other, converts⟩ := (config_inverse.1 settings).1.mpr acceptable
  refine ⟨⟨writable, config_inverse.2 config writable⟩,
    ⟨other, converts, (config_inverse.1 settings).2 other converts⟩, fun converts => ?_⟩
  have rate := ((config_inverse.1 _).1.mp converts).rate
  exact absurd rate (by decide)

end BreakerSettings

end Resilience
