import Resilience.Proofs.BreakerSettings
import Resilience.Settings.Retry

/-!
# Lists of kinds in settings

The settings of a retry policy and those of a breaker list kinds by name twice: those that are worth
a retry, or that count as failures, and those that never are. What they make of these lists is quite
different. A policy gets a rule with a part for each list that is not empty; a breaker gets a filter
that reads both lists itself. Nevertheless, the same lists mean the same to both. A kind that is
ruled out prevails, also if it is the kind of the cause, and an empty list of the others stands for
all of them. Neither of the two looks at messages, or behind the direct cause of a fault.

## Main definitions

* `Fault.Meets` — a kind is that of a fault or of its direct cause
* `Fault.Passes` — what two lists of names say about a fault
* `RetrySettings.Acceptable`, `RetrySettings.reading` — settings that have a policy, and which one

## Main statements

* `RetrySettings.exists_policy_iff` — which settings have a policy
* `RetrySettings.accepts_rule_iff`, `BreakerSettings.counts_filter_iff` — what a policy and a
  breaker make of the lists
* `Fault.lists_agree` — the same lists mean the same to both
-/

namespace Resilience

/-! ## Kinds and faults -/

namespace Fault

/-- A kind is that of a fault or of its direct cause. -/
def Meets (fault : Fault) (kind : FaultKind) : Prop :=
  fault.kind = kind ∨ ∃ cause, fault.cause = some cause ∧ cause.kind = kind

/-- What two lists of names say about a fault: it meets no kind of the one list, and a kind of the
other one if there is any in it. -/
def Passes (fault : Fault) (wanted unwanted : List String) : Prop :=
  (∀ name ∈ unwanted, ¬ fault.Meets (.ofName name)) ∧
    (wanted = [] ∨ ∃ name ∈ wanted, fault.Meets (.ofName name))

variable {fault other : Fault} {kind : FaultKind} {wanted unwanted : List String}

theorem involves_iff : fault.involves kind = true ↔ fault.Meets kind := by
  rw [involves, isKind, Bool.or_eq_true, decide_eq_true_iff, Meets]
  cases fault.cause with
  | none => simp
  | some cause => simp [isKind]

instance (fault : Fault) (kind : FaultKind) : Decidable (fault.Meets kind) :=
  decidable_of_iff _ involves_iff

instance (fault : Fault) (wanted unwanted : List String) :
    Decidable (fault.Passes wanted unwanted) :=
  inferInstanceAs (Decidable (_ ∧ _))

theorem involvesAny_names (fault : Fault) (names : List String) :
    fault.involvesAny (names.map FaultKind.ofName) = true ↔
      ∃ name ∈ names, fault.Meets (.ofName name) := by
  rw [involvesAny, List.any_map, List.any_eq_true]
  exact exists_congr fun name => and_congr_right fun _ => involves_iff

/-- Faults of the same kind whose causes are of the same kind. -/
theorem meets_congr (own : other.kind = fault.kind)
    (direct : other.cause.map Fault.kind = fault.cause.map Fault.kind) :
    other.Meets kind ↔ fault.Meets kind := by
  have causes (fault : Fault) : (∃ cause, fault.cause = some cause ∧ cause.kind = kind) ↔
      fault.cause.map Fault.kind = some kind := Option.map_eq_some_iff.symm
  rw [Meets, Meets, causes, causes, own, direct]

theorem passes_congr (own : other.kind = fault.kind)
    (direct : other.cause.map Fault.kind = fault.cause.map Fault.kind) :
    other.Passes wanted unwanted ↔ fault.Passes wanted unwanted := by
  simp only [Passes, meets_congr own direct]

end Fault

/-! ## Settings of retry policies -/

namespace Binary64

/-- A finite number from one on. -/
def IsAtLeastOne (number : Binary64) : Prop :=
  number.isFinite = true ∧ (unitsPerOne : Int) ≤ number.signedUnits

instance (number : Binary64) : Decidable number.IsAtLeastOne :=
  inferInstanceAs (Decidable (_ ∧ _))

theorem isAtLeastOne_iff {number : Binary64} :
    (!number.isFinite || number.lt 1) = false ↔ number.IsAtLeastOne := by
  rw [one_eq, IsAtLeastOne, Bool.or_eq_false_iff]
  cases number with
  | nan => exact iff_of_false (fun below => nomatch below.1) fun above => nomatch above.1
  | infinity => exact iff_of_false (fun below => nomatch below.1) fun above => nomatch above.1
  | finite negative units =>
    refine and_congr (iff_of_true rfl rfl) ?_
    rw [lt, compare?, ← Bool.not_eq_true, beq_iff_eq, Option.some.injEq, Int.compare_eq_lt,
      Int.not_lt]
    rfl

end Binary64

namespace RetrySettings

/-- Settings with a base delay up to the greatest one, a multiplier from one on and a jitter between
zero and one. -/
structure Acceptable (settings : RetrySettings) : Prop where
  delays : settings.baseDelay ≤ settings.maxDelay
  multiplier : settings.multiplier.IsAtLeastOne
  jitter : settings.jitter.IsShare

variable {settings : RetrySettings} {policy : RetryPolicy} {fault : Fault}

/-- What settings say as a policy, acceptable or not. -/
def reading (settings : RetrySettings) : RetryPolicy where
  maxAttempts := settings.maxAttempts
  baseDelay := .ofMillis settings.baseDelay.toNat
  maxDelay := .ofMillis settings.maxDelay.toNat
  multiplier := settings.multiplier
  strategy := settings.strategy
  jitter := settings.jitter
  rule := settings.rule

theorem policy_of_acceptable (acceptable : settings.Acceptable) :
    settings.policy = .ok settings.reading := by
  have multiplier := Binary64.isAtLeastOne_iff.mpr acceptable.multiplier
  have jitter := Binary64.within_zero_one_iff.mpr acceptable.jitter
  rw [RetrySettings.policy, if_neg (UInt64.not_lt.mpr acceptable.delays), multiplier,
    if_neg Bool.false_ne_true, jitter, Bool.not_true, if_neg Bool.false_ne_true]
  rfl

theorem acceptable_of_policy (converts : settings.policy = .ok policy) : settings.Acceptable := by
  rw [RetrySettings.policy] at converts
  split_ifs at converts with delays multiplier jitter
  exact ⟨UInt64.not_lt.mp delays, Binary64.isAtLeastOne_iff.mp (Bool.eq_false_iff.mpr multiplier),
    Binary64.within_zero_one_iff.mp (by simpa using jitter)⟩

theorem exists_policy_iff : (∃ policy, settings.policy = .ok policy) ↔ settings.Acceptable :=
  ⟨fun ⟨_, converts⟩ => acceptable_of_policy converts,
    fun acceptable => ⟨_, policy_of_acceptable acceptable⟩⟩

/-- What a policy makes of the lists. -/
theorem accepts_rule_iff (settings : RetrySettings) (fault : Fault) :
    settings.rule.accepts fault = true ↔ fault.Passes settings.retried settings.ignored := by
  have wanted := fault.involvesAny_names settings.retried
  have unwanted := fault.involvesAny_names settings.ignored
  have ruledOut : (!fault.involvesAny (settings.ignored.map FaultKind.ofName)) = true ↔
      ∀ name ∈ settings.ignored, ¬ fault.Meets (.ofName name) := by
    rw [Bool.not_eq_true', ← Bool.not_eq_true, unwanted]
    simp only [not_exists, not_and]
  rw [rule, Fault.Passes]
  -- the rule has a part for each list that is not empty
  cases listed : settings.retried with
  | nil =>
    cases barred : settings.ignored with
    | nil => exact iff_of_true rfl ⟨nofun, .inl rfl⟩
    | cons name rest =>
      rw [barred] at ruledOut
      exact ruledOut.trans (and_iff_left (.inl rfl)).symm
  | cons first others =>
    rw [listed] at wanted
    have needed := wanted.trans (or_iff_right (List.cons_ne_nil first others)).symm
    cases barred : settings.ignored with
    | nil => exact needed.trans (and_iff_right nofun).symm
    | cons name rest =>
      rw [barred] at ruledOut
      exact (Bool.and_eq_true_iff.trans (and_congr needed ruledOut)).trans and_comm

end RetrySettings

namespace BreakerSettings

/-- What a breaker makes of the lists. -/
theorem counts_filter_iff (settings : BreakerSettings) (fault : Fault) :
    settings.reading.filter.counts fault = true ↔
      fault.Passes settings.recorded settings.ignored := by
  rw [reading, FaultFilter.counts, Bool.and_eq_true, Bool.not_eq_true', ← Bool.not_eq_true,
    Bool.or_eq_true, fault.involvesAny_names, fault.involvesAny_names, Fault.Passes,
    List.isEmpty_iff, List.map_eq_nil_iff, not_exists]
  simp only [not_and]

end BreakerSettings

namespace Fault

/-- For the same two lists of names, and whatever else the settings say as long as they are
acceptable, a policy accepts a fault if and only if a breaker counts it as a failure. Both do if no
kind that is ruled out is that of the fault or of its direct cause, and some kind that is wanted is,
unless none is listed. Any other messages, and any other faults behind the direct cause, give the
same answers. -/
theorem lists_agree (wanted unwanted : List String) (retry : RetrySettings)
    (breaker : BreakerSettings) (retryFits : retry.Acceptable) (breakerFits : breaker.Acceptable) :
    ∃ policy config,
      { retry with retried := wanted, ignored := unwanted }.policy = .ok policy ∧
        { breaker with recorded := wanted, ignored := unwanted }.config = .ok config ∧
        ∀ fault : Fault,
          policy.accepts fault = config.filter.counts fault ∧
            (policy.accepts fault = true ↔ fault.Passes wanted unwanted) ∧
            ∀ other : Fault, other.kind = fault.kind →
              other.cause.map Fault.kind = fault.cause.map Fault.kind →
              policy.accepts other = policy.accepts fault ∧
                config.filter.counts other = config.filter.counts fault := by
  let retrying : RetrySettings := { retry with retried := wanted, ignored := unwanted }
  let breaking : BreakerSettings := { breaker with recorded := wanted, ignored := unwanted }
  have retryingFits : retrying.Acceptable :=
    ⟨retryFits.delays, retryFits.multiplier, retryFits.jitter⟩
  have breakingFits : breaking.Acceptable :=
    ⟨breakerFits.rate, breakerFits.count, breakerFits.probes, breakerFits.window⟩
  have accepts (fault : Fault) : retrying.reading.accepts fault = true ↔
    fault.Passes wanted unwanted := retrying.accepts_rule_iff fault
  have counts (fault : Fault) : breaking.reading.filter.counts fault = true ↔
    fault.Passes wanted unwanted := breaking.counts_filter_iff fault
  refine ⟨retrying.reading, breaking.reading, RetrySettings.policy_of_acceptable retryingFits,
    BreakerSettings.config_of_acceptable breakingFits, fun fault => ⟨?_, accepts fault,
      fun other own direct => ⟨?_, ?_⟩⟩⟩
  · exact Bool.eq_iff_iff.mpr ((accepts fault).trans (counts fault).symm)
  · exact Bool.eq_iff_iff.mpr
      ((accepts other).trans ((passes_congr own direct).trans (accepts fault).symm))
  · exact Bool.eq_iff_iff.mpr
      ((counts other).trans ((passes_congr own direct).trans (counts fault).symm))

/-- One kind is on both lists here, and another one has a name of its own. A timeout behind an
internal fault is wanted, whatever is behind the timeout; a broken connection is not. -/
theorem lists_agree_chain :
    let wanted := ["timeout", "connection", "disk full"]
    let unwanted := ["connection", "conflict"]
    let deep (message : String) (kind last : FaultKind) : Fault :=
      (Fault.of .internal message).withCause ((Fault.of kind "").withCause (.of last ""))
    RetrySettings.default.Acceptable ∧ BreakerSettings.default.Acceptable ∧
      ∃ policy config,
        { RetrySettings.default with retried := wanted, ignored := unwanted }.policy = .ok policy ∧
          { BreakerSettings.default with recorded := wanted, ignored := unwanted }.config =
            .ok config ∧
          config.filter.counts (deep "slow" .timeout .connection) = true ∧
          config.filter.counts (deep "" .timeout .conflict) = true ∧
          config.filter.counts (deep "slow" .connection .timeout) = false ∧
          policy.accepts (deep "slow" .connection .timeout) = false ∧
          config.filter.counts (.of (.named "disk full") "") = true := by
  intro wanted unwanted deep
  have retryFits : RetrySettings.default.Acceptable :=
    ⟨by decide, by decide +kernel, by decide +kernel⟩
  have breakerFits : BreakerSettings.default.Acceptable :=
    ⟨by decide +kernel, by decide, by decide, by decide⟩
  obtain ⟨policy, config, isPolicy, isConfig, agree⟩ :=
    lists_agree wanted unwanted RetrySettings.default BreakerSettings.default retryFits breakerFits
  have counted (fault : Fault) :
      config.filter.counts fault = true ↔ fault.Passes wanted unwanted := by
    rw [← (agree fault).1]
    exact (agree fault).2.1
  have slow : config.filter.counts (deep "slow" .timeout .connection) = true :=
    (counted _).mpr (by decide)
  have same := (agree (deep "slow" .timeout .connection)).2.2 (deep "" .timeout .conflict) rfl rfl
  have broken : config.filter.counts (deep "slow" .connection .timeout) = false :=
    Bool.eq_false_iff.mpr (mt (counted _).mp (by decide))
  exact ⟨retryFits, breakerFits, policy, config, isPolicy, isConfig, slow, same.2.trans slow,
    broken, (agree _).1.trans broken, (counted _).mpr (by decide)⟩

end Fault

end Resilience
