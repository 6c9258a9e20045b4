import Resilience.Proofs.Breaker.Agreement

/-!
# The gate of an open circuit

An open circuit turns every call away until its wait is over. The wait begins with the entry into
the open state, whichever of the three ways it was entered: by the counters of a window, by a failed
probe or by manual control. Neither the denials nor the late results of calls that were admitted
before move its end.

## Main definitions

* `BreakerRequest.asksAdmission` — requests for admission
* `TimedRequest.KeepsShut` — requests that leave an open circuit open

## Main statements

* `Breaker.opened_by` — what has opened a circuit that is open
* `Breaker.Agrees.acquire_of_opened` — the answer to a request for admission
* `Breaker.open_gate` — what an open circuit does until it admits a call, and how it admits the first
-/

namespace Resilience

/-- Whether a request asks for admission. -/
def BreakerRequest.asksAdmission : BreakerRequest → Bool
  | acquire => true
  | success | fault _ | timeout | inspect | reset | forceOpen | forceClosed | startProbing => false

/-- A request that leaves a circuit open whose wait ends at `reopening`: no manual control, and no
request for admission after the wait unless probing is left to manual control. -/
def TimedRequest.KeepsShut (timed : TimedRequest) (config : BreakerConfig) (reopening : Instant) :
    Prop :=
  timed.request.isControl = false ∧
    (timed.request.asksAdmission = true → config.automaticProbing = true →
      timed.instant < reopening)

instance (timed : TimedRequest) (config : BreakerConfig) (reopening : Instant) :
    Decidable (timed.KeepsShut config reopening) :=
  inferInstanceAs (Decidable (_ ∧ _))

namespace Breaker

variable {breaker : Breaker} {stay : Stay} {request : BreakerRequest} {now reopening : Instant}

/-! ## The entry into the open state -/

/-- Only a counted failure opens a circuit by itself. -/
theorem outcome?_of_opens (kept : request.restarts = false)
    (notOpen : breaker.circuit ≠ .opened)
    (opens : (breaker.perform now request).breaker.circuit = .opened) :
    request.outcome? breaker.config now = some ⟨now, true⟩ := by
  rcases breaker.stays_or_enters now request with stays | enters
  · exact absurd (stays.symm.trans opens) notOpen
  · rw [opens] at enters
    cases enters with
    | failed _ counted => exact counted
    | forcedOpen => cases kept

/-- A circuit that is open was opened at the beginning of its stay, by a failure that it counted or
by manual control, and manual control has not opened it again since. -/
theorem opened_by {begun : Instant} {history : List TimedRequest}
    (closed : breaker.circuit ≠ .opened) (opened : (breaker.replay history).circuit = .opened) :
    ∃ later cause earlier, history = later ++ cause :: earlier ∧
      cause.instant = (breaker.stay begun history).since ∧
      (cause.request = .forceOpen ∨
        cause.request.outcome? breaker.config cause.instant = some ⟨cause.instant, true⟩ ∧
          (breaker.replay earlier).circuit ≠ .opened) ∧
      ∀ timed ∈ later, timed.request ≠ .forceOpen := by
  induction history with
  | nil => exact absurd opened closed
  | cons last earlier ih =>
    obtain ⟨now, request⟩ := last
    rw [replay_cons] at opened
    rw [stay_cons]
    by_cases restarts : request.restarts = true
    · -- of the requests that enter a state in any case only one enters the open state
      rw [nextStay_of_restarts restarts]
      refine ⟨[], ⟨now, request⟩, earlier, rfl, rfl, Or.inl ?_, nofun⟩
      cases request with
      | forceOpen => rfl
      | reset => cases opened
      | forceClosed => cases (force_circuit _ .closed now).symm.trans opened
      | acquire | success | fault | timeout | inspect | startProbing => cases restarts
    · have kept : request.restarts = false := by simpa using restarts
      rw [nextStay_of_stays kept]
      by_cases before : (breaker.replay earlier).circuit = .opened
      · obtain ⟨later, cause, earliest, split, since, why, once⟩ := ih before
        rw [if_neg (by simp [opened, before])]
        refine ⟨⟨now, request⟩ :: later, cause, earliest, by rw [split]; rfl, since, why, ?_⟩
        intro timed member
        rcases List.mem_cons.1 member with rfl | member
        · rintro rfl
          cases kept
        · exact once timed member
      · rw [if_pos (by simp [opened, Ne.symm before])]
        have failed := outcome?_of_opens kept before opened
        rw [replay_config] at failed
        exact ⟨[], ⟨now, request⟩, earlier, rfl, rfl, Or.inr ⟨failed, before⟩, nofun⟩

/-! ## Requests to an open circuit -/

/-- An open circuit answers by the clock alone: the wait is measured from the beginning of the
stay. -/
theorem Agrees.acquire_of_opened (agrees : breaker.Agrees stay now)
    (opened : breaker.circuit = .opened) :
    breaker.acquire now =
      let reopening := stay.since + breaker.config.openWait.nanos
      let turnedAway : Change :=
        { breaker := { breaker with totals := breaker.totals.addRejection } }
      if now < reopening then (.error (.waiting ⟨reopening - now⟩), turnedAway)
      else if breaker.config.automaticProbing then (.ok (), breaker.move .halfOpen now)
      else (.error .manual, turnedAway) := by
  have began : stay.since ≤ now := agrees.ordered.begun
  have since : breaker.window.lastFailureAt.getD breaker.window.startedAt = stay.since := by
    rw [agrees.opened opened]
    rfl
  obtain ⟨elapsed, rfl⟩ := Nat.exists_eq_add_of_le began
  dsimp only
  simp only [Breaker.acquire, admission, opened, since, Nat.add_sub_cancel_left, Nat.add_sub_add_left,
    Nat.add_lt_add_iff_left]
  by_cases early : elapsed < breaker.config.openWait.nanos
  · simp [early, Nat.not_le_of_lt early]
  · by_cases automatic : breaker.config.automaticProbing = true <;>
      simp [early, Nat.le_of_not_lt early, automatic]

/-- Anything but a request for admission and manual control changes the totals only. -/
theorem perform_of_opened_of_asks (opened : breaker.circuit = .opened)
    (free : request.isControl = false) (asks : request.asksAdmission = false) :
    ∃ totals : Totals, totals.rejections = breaker.totals.rejections ∧
      breaker.perform now request = { breaker := { breaker with totals } } := by
  cases reported : request.outcome? breaker.config now with
  | some outcome => exact perform_of_opened opened (by simp [reported])
  | none =>
    refine ⟨breaker.totals, rfl, ?_⟩
    cases request with
    | inspect => rfl
    | fault fault =>
      have ignored : breaker.config.filter.counts fault = false := by
        simpa [BreakerRequest.outcome?] using reported
      simp [perform, recordFault, ignored]
    | acquire => cases asks
    | success | timeout => cases reported
    | reset | forceOpen | forceClosed | startProbing => cases free

/-- A request that keeps an open circuit shut counts a rejection if it asks for admission, and
changes the totals only. -/
theorem Agrees.perform_of_keepsShut (agrees : breaker.Agrees stay now)
    (opened : breaker.circuit = .opened)
    (shut : TimedRequest.KeepsShut ⟨now, request⟩ breaker.config
      (stay.since + breaker.config.openWait.nanos)) :
    ∃ totals : Totals,
      totals.rejections = breaker.totals.rejections + (if request.asksAdmission then 1 else 0) ∧
      breaker.perform now request = { breaker := { breaker with totals } } := by
  obtain ⟨free, early⟩ := shut
  by_cases asks : request.asksAdmission = true
  · have isAcquire : request = .acquire := by
      cases request <;> first | rfl | cases asks
    subst isAcquire
    refine ⟨breaker.totals.addRejection, by simp [Totals.addRejection, asks], ?_⟩
    rw [Breaker.perform, agrees.acquire_of_opened opened]
    dsimp only
    split
    · rfl
    · rename_i late
      rw [if_neg fun automatic => late (early asks automatic)]
  · obtain ⟨totals, same, step⟩ :=
      @perform_of_opened_of_asks _ _ now opened free (by simpa using asks)
    exact ⟨totals, by simp [asks, same], step⟩

/-- Requests that keep an open circuit shut leave its window as it is, report no transition and
count one rejection for each of them that asks for admission. -/
theorem replay_of_keepsShut {name : String} {config : BreakerConfig} {begun : Instant}
    {history later : List TimedRequest} (ordered : Chronological begun (later ++ history))
    (opened : ((start name config begun).replay history).circuit = .opened)
    (shut : ∀ timed ∈ later, timed.KeepsShut config
      (((start name config begun).stay begun history).since + config.openWait.nanos)) :
    let fresh := start name config begun
    ∃ totals : Totals,
      fresh.replay (later ++ history) = { fresh.replay history with totals } ∧
      totals.rejections =
        (fresh.replay history).totals.rejections + later.countP (·.request.asksAdmission) ∧
      fresh.transitions (later ++ history) = fresh.transitions history ∧
      (fresh.stay begun (later ++ history)).since = (fresh.stay begun history).since := by
  intro fresh
  induction later with
  | nil => exact ⟨_, rfl, rfl, rfl, rfl⟩
  | cons last rest ih =>
    obtain ⟨now, request⟩ := last
    obtain ⟨totals, same, counted, quiet, since⟩ :=
      ih ordered.tail fun timed member => shut timed (List.mem_cons_of_mem _ member)
    have circuit : (fresh.replay (rest ++ history)).circuit = .opened := by rw [same]; exact opened
    have sameConfig : (fresh.replay (rest ++ history)).config = config := fresh.replay_config _
    have agrees : (fresh.replay (rest ++ history)).Agrees
        (fresh.stay begun (rest ++ history)) now :=
      (agrees_replay name config ordered.tail).mono ordered.latest_le
    -- the stay has not changed, so the wait is still measured from the same instant
    have keeps := shut _ List.mem_cons_self
    rw [← since, ← sameConfig] at keeps
    obtain ⟨next, one, step⟩ := agrees.perform_of_keepsShut circuit keeps
    refine ⟨next, ?_, ?_, ?_, ?_⟩
    · rw [List.cons_append, replay_cons, step, same]
    · rw [one, same, counted, List.countP_cons]
      dsimp only
      omega
    · rw [List.cons_append, transitions, step, quiet]
      rfl
    · have stays : request.restarts = false := by
        have free := keeps.1
        cases request <;> first | rfl | cases free
      rw [List.cons_append, stay_cons, nextStay_of_stays stays, step, ← since, if_neg (by simp [Breaker.circuit])]
      rfl

/-- A circuit that is open since some instant turns calls away until its wait is over, whatever
else is reported to it, and every denial counts as one rejection. The first request for admission
after the wait makes it half-open, with one transition, and so admits the call; without automatic
probing it is turned away like all others. -/
theorem open_gate (name : String) (config : BreakerConfig) (begun : Instant)
    (history later : List TimedRequest) (ordered : Chronological begun (later ++ history))
    (opened : ((start name config begun).replay history).circuit = .opened)
    (shut : ∀ timed ∈ later, timed.KeepsShut config
      (((start name config begun).stay begun history).since + config.openWait.nanos)) :
    let fresh := start name config begun
    let before := fresh.replay history
    let after := fresh.replay (later ++ history)
    let reopening := (fresh.stay begun history).since + config.openWait.nanos
    after.window = before.window ∧
      after.totals.rejections =
        before.totals.rejections + later.countP (·.request.asksAdmission) ∧
      fresh.transitions (later ++ history) = fresh.transitions history ∧
      (∀ now request, request.isControl = false → request.asksAdmission = false →
        ∃ totals : Totals, totals.rejections = after.totals.rejections ∧
          after.perform now request = { breaker := { after with totals } }) ∧
      ∀ now, latest begun (later ++ history) ≤ now →
        (reopening ≤ now → config.automaticProbing = true →
          after.acquire now =
            (.ok (),
              { breaker := { after with window := after.window.enter .halfOpen now }
                transition := some ⟨name, .opened, .halfOpen⟩ })) ∧
        (now < reopening ∨ config.automaticProbing = false →
          ∃ denial,
            after.acquire now =
              (.error denial, { breaker := { after with totals := after.totals.addRejection } }) ∧
            after.denied denial = .circuitOpen name (some denial.hint)) := by
  intro fresh before after reopening
  obtain ⟨totals, unchanged, counted, quiet, since⟩ := replay_of_keepsShut ordered opened shut
  have same : after = { before with totals } := unchanged
  have circuit : after.circuit = .opened := (congrArg Breaker.circuit same).trans opened
  have sameName : after.name = name := fresh.replay_name _
  have sameConfig : after.config = config := fresh.replay_config _
  refine ⟨by rw [same], ?_, quiet, fun now request => perform_of_opened_of_asks circuit,
    fun now reached => ?_⟩
  · rw [← counted]
    exact congrArg (·.totals.rejections) same
  -- the wait is measured from the beginning of the stay, which the requests have not moved
  · have agrees := (agrees_replay name config ordered).mono reached
    have answer : after.acquire now = _ := agrees.acquire_of_opened circuit
    rw [since] at answer
    dsimp only at answer
    have waited : reopening = (fresh.stay begun history).since + after.config.openWait.nanos := by
      rw [sameConfig]
    rw [waited, ← sameConfig]
    refine ⟨fun late automatic => ?_, fun shut => ?_⟩
    · rw [if_neg (Nat.not_lt_of_le late), if_pos automatic] at answer
      rw [answer, move, circuit, sameName]
      rfl
    · by_cases early : now < (fresh.stay begun history).since + after.config.openWait.nanos
      · rw [if_pos early] at answer
        exact ⟨_, answer, congrArg (Failure.circuitOpen · _) sameName⟩
      · rw [if_neg early, if_neg (ne_true_of_eq_false (shut.resolve_left early))] at answer
        exact ⟨_, answer, congrArg (Failure.circuitOpen · _) sameName⟩

/-- A circuit that a timeout opens at 10 with a wait of 20 turns a call away at 29, and admits one
at 30. -/
theorem open_gate_at_thirty :
    let config : BreakerConfig := { minimumCalls := 1, countThreshold := 1, openWait := ⟨20⟩ }
    let history : List TimedRequest := [⟨10, .timeout⟩]
    let later : List TimedRequest := [⟨29, .acquire⟩, ⟨15, .success⟩]
    let after := (start "payments" config 0).replay (later ++ history)
    Chronological 0 (later ++ history) ∧
      ((start "payments" config 0).replay history).circuit = .opened ∧
      (∀ timed ∈ later, timed.KeepsShut config 30) ∧
      after.totals.rejections = 1 ∧ (after.acquire 29).1 = .error (.waiting ⟨1⟩) ∧
      after.acquire 30 =
        (.ok (),
          { breaker := { after with window := after.window.enter .halfOpen 30 }
            transition := some ⟨"payments", .opened, .halfOpen⟩ }) := by
  intro config history later after
  have ordered : Chronological 0 (later ++ history) := by decide
  have opened : ((start "payments" config 0).replay history).circuit = .opened := by
    decide +kernel
  have shut : ∀ timed ∈ later, timed.KeepsShut config 30 := by decide +kernel
  obtain ⟨-, -, -, -, next⟩ :=
    open_gate "payments" config 0 history later ordered opened (by decide +kernel)
  have admitted := (next 30 (by decide +kernel)).1 (by decide +kernel) rfl
  exact ⟨ordered, opened, shut, by decide +kernel, by decide +kernel, admitted⟩

end Breaker

end Resilience
