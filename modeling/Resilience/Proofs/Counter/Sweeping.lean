import Resilience.Proofs.Counter.Chains

/-!
# What a sweeper leaves

A sweeper removes what has expired whenever it ticks, and nothing in between, so an expired count
can linger. It does so for less than one period. The reason is a single fact about the expiries that
are kept: none of them lies before the latest tick. A tick removes those that do, and a request at a
later instant sets an expiry no earlier than that instant, a time to live of zero included.

On the other hand nothing is removed while it holds, unless its key is reset. What the last
increment of a key has kept is there until its own expiry.

Requests come at any instant. Timers go by whole milliseconds, and so do sweepers here: they start at
a reading of the clock and their period is a whole number of milliseconds, so that each tick comes
when it is due. At the instant of a tick the sweeper goes before the requests. Where a request goes
before the sweeper, a purge at that instant stands for the sweeper's turn, and sweeping twice does no
harm.

## Main definitions

* `Sweeper.IsWhole` — sweepers on the clock's scale
* `LocalCounter.SweptBy` — a counter whose sweeper has done its work up to an instant
* `LocalCounter.Retains` — a counter that keeps what holds of the last increments

## Main statements

* `LocalCounter.SweptBy.perform`, `LocalCounter.SweptBy.awaiting` — no expiry before the latest tick
  is kept
* `Ledger.swept_within_period` — what a sweeper leaves after any history
-/

namespace Resilience

/-! ## Ticks -/

/-- A timer that is set for whole milliseconds waits for whole milliseconds, and no longer. -/
theorem Duration.exists_wait_ofMillis {millis : Nat} (positive : 1 ≤ millis) :
    ∃ waited, 1 ≤ waited ∧ waited ≤ millis ∧ (ofMillis millis).wait = .ofMillis waited := by
  rw [wait]
  split
  · rename_i long
    refine ⟨946080000000, by decide, ?_, rfl⟩
    exact Nat.le_of_lt (Nat.lt_of_mul_lt_mul_right (a := nanosPerMilli) long)
  · exact ⟨millis, positive, Nat.le_refl _, rfl⟩

namespace Sweeper

/-- A sweeper on the clock's scale of whole milliseconds. -/
structure IsWhole (sweeper : Sweeper) : Prop where
  startedAt : ∃ millis, sweeper.startedAt = Instant.ofMillis millis
  period : ∃ millis, 1 ≤ millis ∧ sweeper.period = .ofMillis millis

variable {sweeper : Sweeper} {now later : Instant}

theorem IsWhole.period_pos (whole : sweeper.IsWhole) : 0 < sweeper.period.nanos := by
  obtain ⟨millis, positive, same⟩ := whole.period
  rw [same]
  exact Nat.mul_pos positive (by decide)

/-- Less than one period has passed since the latest tick. -/
theorem lt_latest_add (positive : 0 < sweeper.period.nanos) (now : Instant) :
    now < sweeper.latest now + sweeper.period.nanos := by
  have next : now - sweeper.startedAt < _ := Nat.lt_div_mul_add positive
  calc now ≤ sweeper.startedAt + (now - sweeper.startedAt) :=
        Nat.sub_le_iff_le_add'.1 (Nat.le_refl _)
    _ < sweeper.startedAt + (_ + sweeper.period.nanos) := Nat.add_lt_add_left next _
    _ = sweeper.latest now + sweeper.period.nanos := (Nat.add_assoc _ _ _).symm

/-- A tick that has been reached is no later than the latest one. -/
theorem latest_le_latest (positive : 0 < sweeper.period.nanos)
    (reached : sweeper.latest later ≤ now) : sweeper.latest later ≤ sweeper.latest now := by
  rw [latest] at reached ⊢
  have passed : (later - sweeper.startedAt) / sweeper.period.nanos ≤
      (now - sweeper.startedAt) / sweeper.period.nanos :=
    (Nat.le_div_iff_mul_le positive).2 (Nat.le_sub_of_add_le' reached)
  exact Nat.add_le_add_left (Nat.mul_le_mul_right _ passed) _

/-- On the clock's scale the latest tick is a reading of the clock. -/
theorem IsWhole.exists_latest (whole : sweeper.IsWhole) (now : Instant) :
    ∃ millis, sweeper.latest now = Instant.ofMillis millis := by
  obtain ⟨start, started⟩ := whole.startedAt
  obtain ⟨millis, -, period⟩ := whole.period
  refine ⟨start + (now - sweeper.startedAt) / sweeper.period.nanos * millis, ?_⟩
  rw [latest, started, period]
  simp only [Instant.ofMillis, Duration.ofMillis, Nat.add_mul, Nat.mul_assoc]

/-- So nothing ticks within a millisecond. -/
theorem IsWhole.latest_wholeMillis (whole : sweeper.IsWhole) (started : sweeper.startedAt ≤ now) :
    sweeper.startedAt ≤ now.wholeMillis ∧ sweeper.latest now.wholeMillis = sweeper.latest now := by
  obtain ⟨start, same⟩ := whole.startedAt
  obtain ⟨tick, due⟩ := whole.exists_latest now
  have begun : sweeper.startedAt ≤ now.wholeMillis := by
    rw [same] at started ⊢
    exact now.ofMillis_le_wholeMillis started
  have reached := latest_le started
  rw [due] at reached
  refine ⟨begun, Nat.le_antisymm ?_ ?_⟩
  · exact latest_le_latest whole.period_pos (Nat.le_trans (latest_le begun) now.wholeMillis_le)
  · exact latest_le_latest whole.period_pos (due ▸ now.ofMillis_le_wholeMillis reached)

/-- On the clock's scale a tick comes exactly when it is due. -/
theorem IsWhole.lastTick?_eq (whole : sweeper.IsWhole) (now : Instant) :
    sweeper.lastTick? now =
      if (now - sweeper.startedAt) / sweeper.period.nanos = 0 then none
      else some (sweeper.latest now) := by
  obtain ⟨tick, due⟩ := whole.exists_latest now
  have ceiled (time : Nat) : (Duration.mk (Instant.ofMillis time)).ceilMillis = time := by
    simp only [Duration.ceilMillis, Instant.ofMillis, Duration.nanosPerMilli]
    omega
  rw [lastTick?]
  dsimp only
  rw [← latest, due, ceiled]

end Sweeper

/-! ## Counters with a sweeper -/

namespace LocalCounter

variable {counter : LocalCounter} {sweeper : Sweeper} {before now later : Instant}

/-- While time passes, the sweeper does its work once for all ticks in between. -/
theorem elapse_eq (driven : counter.sweeper = some sweeper) (whole : sweeper.IsWhole)
    (started : sweeper.startedAt ≤ before) (now : Instant) :
    counter.elapse before now =
      if before < sweeper.latest now then counter.sweep (sweeper.latest now) else counter := by
  rw [elapse, driven, Option.bind_some, whole.lastTick?_eq]
  by_cases none : (now - sweeper.startedAt) / sweeper.period.nanos = 0
  · -- without a tick the latest one stands for the start, which is over
    have start : sweeper.latest now = sweeper.startedAt := by
      rw [Sweeper.latest, none, Nat.zero_mul, Nat.add_zero]
    rw [if_pos none, start, if_neg (Nat.not_lt_of_le started)]
  · rw [if_neg none]

/-! ### Nothing lingers -/

/-- A counter whose sweeper has done its work up to an instant: no expiry before the latest tick is
kept. -/
structure SweptBy (counter : LocalCounter) (sweeper : Sweeper) (now : Instant) : Prop where
  driven : counter.sweeper = some sweeper
  started : sweeper.startedAt ≤ now
  recent : ∀ entry ∈ counter.counts.entries, ∀ expiry ∈ entry.2.expiresAt,
    sweeper.latest now ≤ expiry

namespace SweptBy

/-- A counter that keeps less is swept as well. -/
theorem of_subset {other : LocalCounter} (swept : counter.SweptBy sweeper now)
    (same : other.sweeper = counter.sweeper)
    (subset : other.counts.entries ⊆ counter.counts.entries) : other.SweptBy sweeper now :=
  ⟨same.trans swept.driven, swept.started, fun entry kept => swept.recent entry (subset kept)⟩

theorem sweep (swept : counter.SweptBy sweeper now) (tick : Instant) :
    (counter.sweep tick).SweptBy sweeper now :=
  swept.of_subset rfl (List.filter_subset_self _)

theorem reset (swept : counter.SweptBy sweeper now) (key : String) :
    (counter.reset key).SweptBy sweeper now :=
  swept.of_subset rfl (List.filter_subset_self _)

/-- An increment sets an expiry that is no earlier than now. -/
theorem increment (swept : counter.SweptBy sweeper now) (key : String) (ttl : Option Duration) :
    (counter.increment key ttl now).2.SweptBy sweeper now := by
  refine ⟨swept.driven, swept.started, fun entry kept expiry expires => ?_⟩
  rcases Table.mem_insertEntry kept with rfl | present
  · obtain ⟨lasts, -, rfl⟩ := Option.map_eq_some_iff.1 expires
    exact Nat.le_trans (Sweeper.latest_le swept.started) (Nat.le_add_right _ _)
  · exact swept.recent entry present expiry expires

/-- While time passes, the sweeper keeps up with its ticks. -/
theorem elapse (swept : counter.SweptBy sweeper before) (whole : sweeper.IsWhole)
    (passed : before ≤ now) : (counter.elapse before now).SweptBy sweeper now := by
  have started := Nat.le_trans swept.started passed
  rw [elapse_eq swept.driven whole swept.started]
  split
  · -- the latest tick has just removed what expired by then
    refine ⟨swept.driven, started, fun entry kept expiry expires => ?_⟩
    have holds : isExpired entry.2.expiresAt (sweeper.latest now) = false := by
      simpa using (List.mem_filter.1 kept).2
    by_contra early
    have expired : isExpired entry.2.expiresAt (sweeper.latest now) = true :=
      (isExpired_iff _ _).2 ⟨expiry, expires, Nat.le_of_not_le early⟩
    rw [holds] at expired
    cases expired
  · -- there was no tick meanwhile
    rename_i quiet
    refine ⟨swept.driven, started, fun entry kept expiry expires => ?_⟩
    exact Nat.le_trans (Sweeper.latest_le_latest whole.period_pos (Nat.le_of_not_lt quiet))
      (swept.recent entry kept expiry expires)

/-- Between two requests the sweeper keeps up with its ticks, which come at whole milliseconds. -/
theorem awaiting {ledger : Ledger} {id : String}
    (swept : (ledger.localCounter id).SweptBy sweeper before) (whole : sweeper.IsWhole)
    (passed : before ≤ now) : ((ledger.awaiting before now).localCounter id).SweptBy sweeper now := by
  obtain ⟨first, same⟩ := whole.latest_wholeMillis swept.started
  obtain ⟨-, last⟩ := whole.latest_wholeMillis (Nat.le_trans swept.started passed)
  have earlier : (ledger.localCounter id).SweptBy sweeper before.wholeMillis :=
    ⟨swept.driven, first, same ▸ swept.recent⟩
  have waited := earlier.elapse whole (Instant.wholeMillis_mono passed)
  rw [← Ledger.localCounter_elapse] at waited
  exact ⟨waited.driven, Nat.le_trans swept.started passed, last ▸ waited.recent⟩

/-- Every request but the end of the sweeper leaves a counter swept. -/
theorem perform {ledger : Ledger} {id : String} {config : LocalConfig} {request : CountRequest}
    (swept : (ledger.localCounter id).SweptBy sweeper now) (running : request ≠ .close) :
    ((request.perform id config now ledger).localCounter id).SweptBy sweeper now := by
  rcases Ledger.perform_cases id config now ledger (fun _ => []) request with
    ⟨key, ttl, -, after, -⟩ | ⟨key, -, after, -⟩ | ⟨-, after, -⟩ | ⟨closed, -⟩ | ⟨after, -⟩
  · rw [after]
    exact swept.increment key ttl
  · rw [after]
    exact swept.reset key
  · rw [after]
    exact swept.sweep now
  · exact absurd closed running
  · rw [after]
    exact swept

/-- What is kept has not been expired for a whole period. -/
theorem lt_expiry_add (swept : counter.SweptBy sweeper now) (whole : sweeper.IsWhole)
    {entry : String × Count} (kept : entry ∈ counter.counts.entries) {expiry : Instant}
    (expires : expiry ∈ entry.2.expiresAt) : now < expiry + sweeper.period.nanos :=
  Nat.lt_of_lt_of_le (Sweeper.lt_latest_add whole.period_pos now)
    (Nat.add_le_add_right (swept.recent entry kept expiry expires) _)

end SweptBy

/-! ### Nothing is lost -/

variable {key : String} {count : Count}

/-- A sweep keeps what holds. -/
theorem find?_sweep (kept : counter.counts.find? key = some count)
    (holds : isExpired count.expiresAt now = false) :
    (counter.sweep now).counts.find? key = some count :=
  Table.find?_keepWhere_of_some kept (by rw [holds]; rfl)

/-- A counter that keeps what holds of the last increments of all keys. -/
def Retains (counter : LocalCounter) (past : String → List Increment) (now : Instant) : Prop :=
  ∀ key, ∀ last ∈ (past key).head?, last.Holds now →
    ∃ value, counter.counts.find? key = some ⟨value, last.expiresAt⟩

namespace Retains

variable {past : String → List Increment}

theorem sweep (retains : counter.Retains past now) : (counter.sweep now).Retains past now := by
  intro key last isLast holds
  obtain ⟨value, kept⟩ := retains key last isLast holds
  exact ⟨value, find?_sweep kept ((Increment.holds_iff _ _).1 holds)⟩

theorem increment (retains : counter.Retains past now) (key : String) (ttl : Option Duration) :
    (counter.increment key ttl now).2.Retains
      (Function.update past key (.at now ttl :: past key)) now := by
  intro other last isLast holds
  by_cases same : other = key
  · subst same
    rw [Function.update_self] at isLast
    obtain rfl := Option.some.inj isLast
    exact ⟨_, counter.find?_increment_self other ttl now⟩
  · rw [Function.update_of_ne same] at isLast
    obtain ⟨value, kept⟩ := retains other last isLast holds
    exact ⟨value, (counter.find?_increment_ne same ttl now).trans kept⟩

theorem reset (retains : counter.Retains past now) (key : String) :
    (counter.reset key).Retains (Function.update past key []) now := by
  intro other last isLast holds
  by_cases same : other = key
  · subst same
    rw [Function.update_self] at isLast
    cases isLast
  · rw [Function.update_of_ne same] at isLast
    obtain ⟨value, kept⟩ := retains other last isLast holds
    exact ⟨value, (counter.find?_reset_ne same).trans kept⟩

/-- Every request leaves what holds of the last increments, the one that it makes included. -/
theorem perform {ledger : Ledger} {id : String}
    (retains : (ledger.localCounter id).Retains past now) (config : LocalConfig)
    (request : CountRequest) :
    ((request.perform id config now ledger).localCounter id).Retains
      (fun key => request.extend config key now (past key)) now := by
  rcases Ledger.perform_cases id config now ledger past request with
    ⟨key, ttl, -, after, extended⟩ | ⟨key, -, after, extended⟩ | ⟨-, after, extended⟩ |
      ⟨-, after, extended⟩ | ⟨after, extended⟩
  all_goals rw [after, extended]
  · exact retains.increment key ttl
  · exact retains.reset key
  · exact retains.sweep
  · exact retains
  · exact retains

end Retains

end LocalCounter

/-! ## Histories -/

namespace Ledger

variable {ledger : Ledger} {id key : String} {config : LocalConfig} {count : Count}
  {now begun : Instant} {history : List (Timed CountRequest)}

/-- While time passes, what holds is kept. -/
theorem find?_awaiting_of_holds (kept : (ledger.localCounter id).counts.find? key = some count)
    (holds : isExpired count.expiresAt now = false) (before : Instant) :
    ((ledger.awaiting before now).localCounter id).counts.find? key = some count := by
  rw [awaiting, localCounter_elapse, LocalCounter.elapse]
  split
  · exact kept
  · rename_i tick ticked
    obtain ⟨sweeper, -, last⟩ := Option.bind_eq_some_iff.1 ticked
    split
    · -- what holds now held at the tick
      refine LocalCounter.find?_sweep kept (Bool.eq_false_iff.2 fun expired => ?_)
      have passed := Nat.le_trans (Sweeper.lastTick?_le last) now.wholeMillis_le
      rw [isExpired_mono expired passed] at holds
      cases holds
    · exact kept

/-- Nothing but a reset of its key removes what holds. -/
theorem find?_perform_of_holds (kept : (ledger.localCounter id).counts.find? key = some count)
    (holds : isExpired count.expiresAt now = false) {request : CountRequest}
    (other : request ≠ .reset key) :
    ((request.perform id config now ledger).localCounter id).counts.find? key ≠ none := by
  have present : (ledger.localCounter id).counts.find? key ≠ none := by simp [kept]
  rcases perform_cases id config now ledger (fun _ => []) request with
    ⟨used, ttl, -, after, -⟩ | ⟨used, rfl, after, -⟩ | ⟨-, after, -⟩ | ⟨-, after, -⟩ | ⟨after, -⟩
  all_goals rw [after]
  · by_cases same : key = used
    · subst same
      rw [LocalCounter.find?_increment_self]
      exact Option.some_ne_none _
    · rw [LocalCounter.find?_increment_ne _ same]
      exact present
  · have apart : key ≠ used := fun same => other (by rw [same])
    rw [LocalCounter.find?_reset_ne _ apart]
    exact present
  · rw [LocalCounter.find?_sweep kept holds]
    exact Option.some_ne_none _
  · exact present
  · exact present

/-- Along a history the sweeper keeps up with its ticks. -/
theorem sweptBy_afterCounts (config : LocalConfig) {sweeper : Sweeper} (whole : sweeper.IsWhole)
    (swept : (ledger.localCounter id).SweptBy sweeper begun) (onward : Onward begun history)
    (running : ∀ timed ∈ history, timed.request ≠ .close) :
    ((ledger.afterCounts id config begun history).localCounter id).SweptBy sweeper
      (latestInstant begun history) := by
  induction history with
  | nil => exact swept
  | cons timed earlier ih =>
    obtain ⟨passed, onward⟩ := onward
    have before := ih onward fun timed member => running timed (List.mem_cons_of_mem _ member)
    -- first the time since the request before passes, and then the request is served
    exact (before.awaiting whole passed).perform (running timed List.mem_cons_self)

/-- Along a history what holds of the last increments is kept. -/
theorem retains_afterCounts (ledger : Ledger) (id : String) (config : LocalConfig)
    (onward : Onward begun history) :
    ((ledger.afterCounts id config begun history).localCounter id).Retains
      (fun key => increments config key history) (latestInstant begun history) := by
  induction history with
  | nil => exact fun key last isLast => by cases isLast
  | cons timed earlier ih =>
    obtain ⟨passed, onward⟩ := onward
    refine LocalCounter.Retains.perform (fun key last isLast holds => ?_) config timed.request
    -- what holds after some time held before it
    have held : last.Holds (latestInstant begun earlier) := fun expiry expires =>
      Nat.lt_of_le_of_lt passed (holds expiry expires)
    obtain ⟨value, kept⟩ := ih onward key last isLast held
    exact ⟨value, find?_awaiting_of_holds kept ((Increment.holds_iff _ _).1 holds) _⟩

/-- A sweeper of a counter that has just been created ticks at whole milliseconds, at intervals no
longer than it was asked to. -/
theorem exists_sweptBy_start {config : LocalConfig} {millis : Nat} (positive : 1 ≤ millis)
    (interval : config.sweepInterval = .ofMillis millis) (begun : Nat) :
    ∃ sweeper : Sweeper, sweeper.IsWhole ∧
      sweeper.period.nanos ≤ config.sweepInterval.nanos ∧
      (LocalCounter.start config (Instant.ofMillis begun) true).SweptBy sweeper
        (Instant.ofMillis begun) := by
  -- an interval of a millisecond or more is taken as it is
  have long : ¬ config.sweepInterval < shortestSweep := by
    rw [interval]
    exact Nat.not_lt_of_le (Nat.mul_le_mul_right Duration.nanosPerMilli positive)
  have asked :
      (config.withSweepInterval config.sweepInterval).sweepInterval = .ofMillis millis := by
    rw [LocalConfig.withSweepInterval, if_neg long, interval]
  obtain ⟨waited, lasting, atMost, same⟩ := Duration.exists_wait_ofMillis positive
  refine ⟨⟨Instant.ofMillis begun, .ofMillis waited⟩, ⟨⟨begun, rfl⟩, waited, lasting, rfl⟩, ?_, ?_⟩
  · rw [interval]
    exact Nat.mul_le_mul_right Duration.nanosPerMilli atMost
  · refine ⟨?_, Nat.le_refl _, fun entry kept => nomatch kept⟩
    rw [← same, ← asked]
    rfl

/-- What a sweeper leaves after any history of a counter that was created with a sweeper and has not
been closed since. Nothing is kept for as long as an interval after its expiry. A request after
which something is gone that still holds now, is a reset of its key. And what the last increment of
a key since its last reset has kept, is there as long as it holds. -/
theorem swept_within_period (id : String) (config : LocalConfig) (begun millis : Nat)
    (ledger : Ledger) (history : List (Timed CountRequest))
    (started : ledger.localCounter id = .start config (Instant.ofMillis begun) true)
    (positive : 1 ≤ millis) (interval : config.sweepInterval = .ofMillis millis)
    (onward : Onward (Instant.ofMillis begun) history)
    (running : ∀ timed ∈ history, timed.request ≠ .close) :
    let now := latestInstant (Instant.ofMillis begun) history
    let kept (past : List (Timed CountRequest)) :=
      ((ledger.afterCounts id config (Instant.ofMillis begun) past).localCounter id).counts
    (∀ entry ∈ (kept history).entries, ∀ expiry ∈ entry.2.expiresAt,
        now < expiry + config.sweepInterval.nanos) ∧
      (∀ since timed past key count, history = since ++ timed :: past →
        (kept past).find? key = some count → (∀ expiry ∈ count.expiresAt, now < expiry) →
        (kept (timed :: past)).find? key = none → timed.request = .reset key) ∧
      ∀ key, ∀ last ∈ (increments config key history).head?, last.Holds now →
        ∃ value, (kept history).find? key = some ⟨value, last.expiresAt⟩ := by
  intro now kept
  obtain ⟨sweeper, whole, short, fresh⟩ := exists_sweptBy_start positive interval begun
  rw [← started] at fresh
  have swept := sweptBy_afterCounts config whole fresh onward running
  refine ⟨fun entry member expiry expires => ?_, ?_,
    retains_afterCounts ledger id config onward⟩
  · -- where a timer cannot wait as long as the interval, the sweeper ticks more often
    exact Nat.lt_of_lt_of_le (swept.lt_expiry_add whole member expires)
      (Nat.add_le_add_left short expiry)
  · rintro since timed past key count rfl present holds gone
    by_contra other
    -- what holds now held when the request was made
    have held : isExpired count.expiresAt timed.instant = false := by
      refine Bool.eq_false_iff.2 fun expired => ?_
      obtain ⟨expiry, expires, reached⟩ := (isExpired_iff _ _).1 expired
      exact absurd (holds expiry expires) (Nat.not_lt_of_le (Nat.le_trans reached onward.instant_le))
    exact find?_perform_of_holds (find?_awaiting_of_holds present held _) held other gone

/-- The sweeper starts at 3 and ticks every ten milliseconds. What expires at 22 is gone after the
tick at 23, while an increment at 23 with no time to live at all lingers up to the tick at 33. The
increment without an expiry is kept. -/
theorem swept_within_period_lingering :
    let config : LocalConfig := ⟨none, .ofMillis 10⟩
    let ledger : Ledger := Ledger.setLocal {} "c" (.start config (Instant.ofMillis 3) true)
    let history : List (Timed CountRequest) :=
      [⟨Instant.ofMillis 32, .wait⟩, ⟨Instant.ofMillis 23, .incrementFor "z" (some .zero)⟩,
        ⟨Instant.ofMillis 14, .incrementFor "k" (some (.ofMillis 8))⟩,
        ⟨Instant.ofMillis 5, .increment "keep"⟩]
    let after := ledger.afterCounts "c" config (Instant.ofMillis 3) history
    let counts := (after.localCounter "c").counts
    ledger.localCounter "c" = .start config (Instant.ofMillis 3) true ∧ 1 ≤ 10 ∧
      config.sweepInterval = .ofMillis 10 ∧ Onward (Instant.ofMillis 3) history ∧
      (∀ timed ∈ history, timed.request ≠ .close) ∧
      counts.keys = ["keep", "z"] ∧ counts.find? "z" = some ⟨1, some (Instant.ofMillis 23)⟩ ∧
      latestInstant (Instant.ofMillis 3) history <
        Instant.ofMillis 23 + config.sweepInterval.nanos ∧
      ∃ value, counts.find? "keep" = some ⟨value, none⟩ := by
  intro config ledger history after counts
  have started : ledger.localCounter "c" = .start config (Instant.ofMillis 3) true :=
    localCounter_setLocal_self _ _
  have onward : Onward (Instant.ofMillis 3) history := by decide
  have running : ∀ timed ∈ history, timed.request ≠ .close := by decide
  obtain ⟨recent, -, retained⟩ := swept_within_period "c" config 3 10 ledger history started
    (by decide) rfl onward running
  have lingering : ("z", ⟨1, some (Instant.ofMillis 23)⟩) ∈ counts.entries := by decide +kernel
  have last : (increments config "keep" history).head? = some (.at (Instant.ofMillis 5) none) := rfl
  exact ⟨started, by decide, rfl, onward, running, by decide +kernel, by decide +kernel,
    recent _ lingering _ rfl, retained "keep" _ last nofun⟩

end Ledger

end Resilience
