import Resilience.Proofs.Breaker.OpenGate
import Mathlib.Data.List.Perm.Basic

/-!
# Probes and stale calls

A guarded call asks for admission and reports its result later, if it is admitted; any number of
calls can be under way at once. A breaker does not know which call a result belongs to. A half-open
circuit therefore counts the successes of all calls: those of the probes it has admitted, and those
of stale calls, which were admitted earlier and are still under way when it becomes half-open. With
`n` stale calls, up to `n` of the successes that close the circuit may come from calls that are no
probes.

## Main definitions

* `CallRequest` — a request with the call that makes it
* `Breaker.underWay` — the calls that are admitted and have not reported
* `Breaker.Guarded` — the logs of guarded calls
* `Breaker.probes`, `Breaker.stale` — the calls admitted since the circuit became half-open, and
  those under way then
* `Breaker.succeeded` — the calls that have reported a success since then

## Main statements

* `Breaker.closed_by_probes_and_stale` — the successes that close a half-open circuit
* `Breaker.closed_by_one_probe` — a stale call takes the place of a probe
-/

namespace Resilience

/-- A request with the call that makes it. -/
structure CallRequest extends TimedRequest where
  call : Nat

/-- Whether a request reports the end of a call. -/
def BreakerRequest.isReport : BreakerRequest → Bool
  | success | fault _ | timeout => true
  | acquire | inspect | reset | forceOpen | forceClosed | startProbing => false

def BreakerRequest.isSuccess : BreakerRequest → Bool
  | success => true
  | acquire | fault _ | timeout | inspect | reset | forceOpen | forceClosed | startProbing => false

namespace Breaker

/-- The requests of a log. -/
def requests (log : List CallRequest) : List TimedRequest := log.map (·.toTimedRequest)

variable (breaker : Breaker)

/-- The breaker after a log, the latest request first. -/
def after (log : List CallRequest) : Breaker := breaker.replay (requests log)

/-- Whether a call is admitted after a log. -/
def admits (entry : CallRequest) (earlier : List CallRequest) : Bool :=
  entry.request.asksAdmission && ((breaker.after earlier).acquire entry.instant).1.isOk

/-- Whether a request makes the circuit half-open. -/
def startsProbes (entry : CallRequest) (earlier : List CallRequest) : Bool :=
  (breaker.after earlier).circuit ≠ .halfOpen && (breaker.after (entry :: earlier)).circuit = .halfOpen

/-- The calls that are admitted and have not reported. -/
def underWay : List CallRequest → List Nat
  | [] => []
  | entry :: earlier =>
    if breaker.admits entry earlier then entry.call :: underWay earlier
    else if entry.request.isReport then (underWay earlier).erase entry.call
    else underWay earlier

/-- A log of guarded calls without manual control: a call asks once, and reports once if it is
admitted. -/
def Guarded : List CallRequest → Prop
  | [] => True
  | entry :: earlier =>
    Guarded earlier ∧ entry.request.isControl = false ∧
      (entry.request.asksAdmission = true → entry.call ∉ earlier.map (·.call)) ∧
      (entry.request.isReport = true → entry.call ∈ breaker.underWay earlier)

instance decidableGuarded : (log : List CallRequest) → Decidable (breaker.Guarded log)
  | [] => .isTrue trivial
  | _ :: earlier => @instDecidableAnd _ _ (decidableGuarded earlier) inferInstance

/-- The calls admitted since the circuit became half-open, with the one that made it so. -/
def probes : List CallRequest → List Nat
  | [] => []
  | entry :: earlier =>
    if breaker.startsProbes entry earlier then [entry.call]
    else if breaker.admits entry earlier then entry.call :: probes earlier
    else probes earlier

/-- The calls that were under way when the circuit became half-open. -/
def stale : List CallRequest → List Nat
  | [] => []
  | entry :: earlier =>
    if breaker.startsProbes entry earlier then breaker.underWay earlier else stale earlier

/-- The calls that have reported a success since the circuit became half-open. -/
def succeeded : List CallRequest → List Nat
  | [] => []
  | entry :: earlier =>
    if breaker.startsProbes entry earlier then []
    else if entry.request.isSuccess then entry.call :: succeeded earlier
    else succeeded earlier

variable {breaker} {entry : CallRequest} {earlier log : List CallRequest}

/-! ## Calls under way -/

theorem admits_of_isReport (report : entry.request.isReport = true) :
    breaker.admits entry earlier = false := by
  cases request : entry.request <;> simp_all [admits, BreakerRequest.isReport,
    BreakerRequest.asksAdmission]

theorem isReport_of_isSuccess {request : BreakerRequest} (success : request.isSuccess = true) :
    request.isReport = true := by
  cases request <;> first | rfl | cases success

theorem asksAdmission_of_admits (admitted : breaker.admits entry earlier = true) :
    entry.request.asksAdmission = true := by
  simp only [admits, Bool.and_eq_true] at admitted
  exact admitted.1

theorem underWay_subset (log : List CallRequest) :
    breaker.underWay log ⊆ log.map (·.call) := by
  induction log with
  | nil => exact List.Subset.refl _
  | cons entry earlier ih =>
    rw [underWay, List.map_cons]
    split
    · exact List.cons_subset_cons _ ih
    · split
      · exact List.Subset.trans (List.Subset.trans List.erase_subset ih) (List.subset_cons_self _ _)
      · exact List.Subset.trans ih (List.subset_cons_self _ _)

theorem succeeded_subset (log : List CallRequest) :
    breaker.succeeded log ⊆ log.map (·.call) := by
  induction log with
  | nil => exact List.Subset.refl _
  | cons entry earlier ih =>
    rw [succeeded, List.map_cons]
    split
    · exact List.nil_subset _
    · split
      · exact List.cons_subset_cons _ ih
      · exact List.Subset.trans ih (List.subset_cons_self _ _)

theorem Guarded.nodup_underWay (guarded : breaker.Guarded log) : (breaker.underWay log).Nodup := by
  induction log with
  | nil => exact List.nodup_nil
  | cons entry earlier ih =>
    obtain ⟨before, -, fresh, -⟩ := guarded
    rw [underWay]
    split
    · rename_i admitted
      have new := fresh (asksAdmission_of_admits admitted)
      exact List.nodup_cons.2 ⟨fun member => new (underWay_subset _ member), ih before⟩
    · split
      · exact (ih before).erase _
      · exact ih before

/-- A call that has reported a success is not under way any more. -/
theorem Guarded.not_underWay_of_succeeded (guarded : breaker.Guarded log) :
    ∀ call ∈ breaker.succeeded log, call ∉ breaker.underWay log := by
  induction log with
  | nil => nofun
  | cons entry earlier ih =>
    obtain ⟨before, -, fresh, -⟩ := guarded
    intro call member
    rw [succeeded] at member
    split at member
    · cases member
    · split at member
      · rename_i success
        -- whoever reports is taken off the calls under way, where nobody is listed twice
        have report := isReport_of_isSuccess success
        rw [underWay, admits_of_isReport report, if_neg nofun, if_pos report,
          (before.nodup_underWay).mem_erase_iff]
        rintro ⟨other, still⟩
        rcases List.mem_cons.1 member with same | member
        · exact other same
        · exact ih before call member still
      · have done := ih before call member
        rw [underWay]
        split
        · rename_i admitted
          -- a call that asks for admission is a new one
          have new := fresh (asksAdmission_of_admits admitted)
          rintro (_ | ⟨_, still⟩)
          · exact new (succeeded_subset _ member)
          · exact done still
        · split
          · exact fun still => done (List.mem_of_mem_erase still)
          · exact done

/-! ## Successes of a half-open circuit -/

/-- The calls with a success since the circuit became half-open are counted once each. -/
theorem Guarded.nodup_succeeded (guarded : breaker.Guarded log) :
    (breaker.succeeded log).Nodup := by
  induction log with
  | nil => exact List.nodup_nil
  | cons entry earlier ih =>
    obtain ⟨before, -, -, reports⟩ := guarded
    rw [succeeded]
    split
    · exact List.nodup_nil
    · split
      · rename_i success
        refine List.nodup_cons.2 ⟨fun member => ?_, ih before⟩
        exact before.not_underWay_of_succeeded _ member (reports (isReport_of_isSuccess success))
      · exact ih before

theorem startsProbes_eq_true :
    breaker.startsProbes entry earlier = true ↔
      (breaker.after earlier).circuit ≠ .halfOpen ∧
        (breaker.after (entry :: earlier)).circuit = .halfOpen := by
  simp [startsProbes]

theorem after_cons (entry : CallRequest) (earlier : List CallRequest) :
    breaker.after (entry :: earlier) =
      ((breaker.after earlier).perform entry.instant entry.request).breaker := rfl

/-- Without manual control only an admission makes a circuit half-open. -/
theorem admits_of_startsProbes (free : entry.request.isControl = false)
    (starts : breaker.startsProbes entry earlier = true) : breaker.admits entry earlier = true := by
  obtain ⟨before, probing⟩ := startsProbes_eq_true.1 starts
  rw [after_cons] at probing
  rcases (breaker.after earlier).stays_or_enters entry.instant entry.request with stays | enters
  · exact absurd (stays.symm.trans probing) before
  · rw [probing] at enters
    generalize request : entry.request = asked at enters free
    cases enters with
    | admitted _ moved =>
      simp [admits, request, BreakerRequest.asksAdmission, moved, Except.isOk, Except.toBool]
    | started => cases free

/-- While the circuit stays half-open, a call that is under way or has succeeded was so before,
unless it has just been admitted. -/
theorem Guarded.underWay_or_succeeded (guarded : breaker.Guarded (entry :: earlier))
    (stays : ¬ breaker.startsProbes entry earlier = true) {call : Nat}
    (member : call ∈ breaker.underWay (entry :: earlier) ∨
      call ∈ breaker.succeeded (entry :: earlier)) :
    (call ∈ breaker.underWay earlier ∨ call ∈ breaker.succeeded earlier) ∨
      breaker.admits entry earlier = true ∧ call = entry.call := by
  obtain ⟨-, -, -, reports⟩ := guarded
  rcases member with member | member
  · rw [underWay] at member
    split at member
    · rename_i admitted
      rcases List.mem_cons.1 member with same | member
      · exact Or.inr ⟨admitted, same⟩
      · exact Or.inl (Or.inl member)
    · split at member
      · exact Or.inl (Or.inl (List.mem_of_mem_erase member))
      · exact Or.inl (Or.inl member)
  · rw [succeeded, if_neg stays] at member
    split at member
    · rename_i success
      rcases List.mem_cons.1 member with rfl | member
      · exact Or.inl (Or.inl (reports (isReport_of_isSuccess success)))
      · exact Or.inl (Or.inr member)
    · exact Or.inl (Or.inr member)

/-- A probe or stale call remains one until the circuit becomes half-open again. -/
theorem probe_or_stale_cons (stays : ¬ breaker.startsProbes entry earlier = true) {call : Nat}
    (known : call ∈ breaker.probes earlier ∨ call ∈ breaker.stale earlier) :
    call ∈ breaker.probes (entry :: earlier) ∨ call ∈ breaker.stale (entry :: earlier) := by
  rw [probes, stale, if_neg stays, if_neg stays]
  refine known.imp_left fun probe => ?_
  split
  · exact List.mem_cons_of_mem _ probe
  · exact probe

/-- A call that is under way or has succeeded while the circuit is half-open is a probe or a stale
call. -/
theorem Guarded.probe_or_stale (guarded : breaker.Guarded log)
    (started : breaker.circuit ≠ .halfOpen) (probing : (breaker.after log).circuit = .halfOpen)
    {call : Nat} (member : call ∈ breaker.underWay log ∨ call ∈ breaker.succeeded log) :
    call ∈ breaker.probes log ∨ call ∈ breaker.stale log := by
  induction log with
  | nil => exact absurd probing started
  | cons entry earlier ih =>
    by_cases starts : breaker.startsProbes entry earlier = true
    · have admitted := admits_of_startsProbes guarded.2.1 starts
      simpa only [underWay, succeeded, probes, stale, starts, admitted, if_true, List.mem_cons,
        List.not_mem_nil, or_false] using member
    · have still : (breaker.after earlier).circuit = .halfOpen := by
        by_contra other
        exact starts (startsProbes_eq_true.2 ⟨other, probing⟩)
      rcases guarded.underWay_or_succeeded starts member with member | ⟨admitted, rfl⟩
      · exact probe_or_stale_cons starts (ih guarded.1 still member)
      · rw [probes, if_neg starts, if_pos admitted]
        exact Or.inl List.mem_cons_self

theorem isSuccess_iff {request : BreakerRequest} {config : BreakerConfig} {now : Instant} :
    request.isSuccess = true ↔ request.outcome? config now = some ⟨now, false⟩ := by
  cases request with
  | fault reported =>
    simp only [BreakerRequest.isSuccess, BreakerRequest.outcome?]
    split <;> simp
  | _ => simp [BreakerRequest.isSuccess, BreakerRequest.outcome?]

theorem restarts_of_isControl {request : BreakerRequest} (free : request.isControl = false) :
    request.restarts = false := by
  cases request <;> first | rfl | cases free

/-- While the circuit stays half-open, successes are counted and nothing else is: a counted failure
would have opened it. -/
theorem Agrees.outcomes_of_halfOpen {stay : Stay} {now : Instant} {request : BreakerRequest}
    (agrees : breaker.Agrees stay now) (probing : breaker.circuit = .halfOpen)
    (free : request.isControl = false)
    (still : (breaker.perform now request).breaker.circuit = .halfOpen) :
    (breaker.nextStay stay now request).outcomes.length =
      stay.outcomes.length + (if request.isSuccess then 1 else 0) := by
  have step := agrees.circuit_of_halfOpen probing free
  rw [nextStay_of_stays (restarts_of_isControl free), if_neg (by rw [still, probing]; simp)]
  cases reported : request.outcome? breaker.config now with
  | none =>
    have other : ¬ request.isSuccess = true := fun success => by
      rw [isSuccess_iff.1 success] at reported
      cases reported
    simp [Stay.add, other]
  | some outcome =>
    obtain ⟨failed, rfl⟩ : ∃ failed, outcome = ⟨now, failed⟩ := ⟨_, outcome?_eq reported⟩
    cases failed with
    | false => simp [Stay.add, isSuccess_iff.2 reported]
    | true =>
      rw [reported, still] at step
      cases step

/-- Only a success closes a half-open circuit, and only the last of those it takes. -/
theorem Agrees.isSuccess_of_closes {stay : Stay} {now : Instant} {request : BreakerRequest}
    (agrees : breaker.Agrees stay now) (probing : breaker.circuit = .halfOpen)
    (free : request.isControl = false)
    (closes : (breaker.perform now request).breaker.circuit = .closed) :
    request.isSuccess = true ∧
      breaker.config.permittedProbes.toNat ≤ stay.outcomes.length + 1 := by
  have step := agrees.circuit_of_halfOpen probing free
  rw [closes] at step
  split at step
  · cases step
  · cases step
  · rename_i reported
    have same := outcome?_eq reported
    cases same
    split at step
    · exact ⟨isSuccess_iff.2 reported, ‹_›⟩
    · cases step

theorem agrees_after (name : String) (config : BreakerConfig) {begun : Instant}
    (ordered : Chronological begun (requests (entry :: earlier))) :
    ((start name config begun).after earlier).Agrees
      ((start name config begun).stay begun (requests earlier)) entry.instant :=
  (agrees_replay name config (Chronological.tail ordered)).mono (Chronological.latest_le ordered)

/-- A half-open circuit has counted the calls that have succeeded since it became half-open. -/
theorem length_outcomes_of_halfOpen (name : String) (config : BreakerConfig) {begun : Instant}
    (ordered : Chronological begun (requests log))
    (guarded : (start name config begun).Guarded log)
    (probing : ((start name config begun).after log).circuit = .halfOpen) :
    ((start name config begun).stay begun (requests log)).outcomes.length =
      ((start name config begun).succeeded log).length := by
  induction log with
  | nil => cases probing
  | cons entry earlier ih =>
    obtain ⟨before, free, -, -⟩ := guarded
    have stay : (start name config begun).stay begun (requests (entry :: earlier)) =
        ((start name config begun).after earlier).nextStay
          ((start name config begun).stay begun (requests earlier)) entry.instant entry.request :=
      stay_cons begun (requests earlier)
    rw [after_cons] at probing
    rw [stay, succeeded]
    -- when the circuit becomes half-open, both begin with nothing
    by_cases starts : (start name config begun).startsProbes entry earlier = true
    · have entered := (startsProbes_eq_true.1 starts).1
      rw [if_pos starts, nextStay_of_entered (by rw [probing]; exact Ne.symm entered)]
      rfl
    · have still : ((start name config begun).after earlier).circuit = .halfOpen := by
        by_contra other
        exact starts (startsProbes_eq_true.2 ⟨other, probing⟩)
      rw [if_neg starts, (agrees_after name config ordered).outcomes_of_halfOpen still free probing,
        ih (Chronological.tail ordered) before still]
      split <;> rfl

/-- When a half-open circuit closes, the permitted number of calls have succeeded since it became
half-open, each counted once. All of them are probes or stale calls, so that at most as many probes
are missing as calls were under way when the circuit became half-open. -/
theorem closed_by_probes_and_stale (name : String) (config : BreakerConfig) (begun : Instant)
    (last : CallRequest) (log : List CallRequest)
    (ordered : Chronological begun (requests (last :: log)))
    (guarded : (start name config begun).Guarded (last :: log))
    (probing : ((start name config begun).after log).circuit = .halfOpen)
    (closes : ((start name config begun).after (last :: log)).circuit = .closed) :
    let fresh := start name config begun
    let succeeded := fresh.succeeded (last :: log)
    let probes := fresh.probes (last :: log)
    let stale := fresh.stale (last :: log)
    config.permittedProbes.toNat ≤ succeeded.length ∧ succeeded.Nodup ∧
      (∀ call ∈ succeeded, call ∈ probes ∨ call ∈ stale) ∧
      config.permittedProbes.toNat ≤ (succeeded.filter (· ∈ probes)).length + stale.length := by
  intro fresh succeeded probes stale
  have stays : ¬ fresh.startsProbes last log = true := fun starts =>
    (startsProbes_eq_true.1 starts).1 probing
  have counted := length_outcomes_of_halfOpen name config (Chronological.tail ordered) guarded.1
    probing
  obtain ⟨success, enough⟩ := (agrees_after name config ordered).isSuccess_of_closes probing
    guarded.2.1 closes
  have reached : config.permittedProbes.toNat ≤ succeeded.length := by
    have same : (fresh.after log).config = config := fresh.replay_config _
    have next : succeeded = last.call :: fresh.succeeded log := by
      simp only [succeeded, Breaker.succeeded, if_neg stays, if_pos success]
    rw [same, counted] at enough
    rw [next]
    exact enough
  have nodup : succeeded.Nodup := guarded.nodup_succeeded
  have known : ∀ call ∈ succeeded, call ∈ probes ∨ call ∈ stale := by
    intro call member
    rcases guarded.underWay_or_succeeded stays (Or.inr member) with before | ⟨admitted, -⟩
    · exact probe_or_stale_cons stays (guarded.1.probe_or_stale nofun probing before)
    · rw [admits_of_isReport (isReport_of_isSuccess success)] at admitted
      cases admitted
  refine ⟨reached, nodup, known, Nat.le_trans reached ?_⟩
  -- no call is counted twice, so successes that are no probes are at most as many as stale calls
  have others : succeeded.filter (fun call => ¬ (call ∈ probes)) ⊆ stale := by
    intro call member
    obtain ⟨member, other⟩ := List.mem_filter.1 member
    exact (known call member).resolve_left (by simpa using other)
  calc succeeded.length
      = (succeeded.filter (· ∈ probes)).length +
          (succeeded.filter (fun call => ¬ (call ∈ probes))).length := by
        simpa using List.length_eq_length_filter_add (· ∈ probes)
    _ ≤ (succeeded.filter (· ∈ probes)).length + stale.length :=
        Nat.add_le_add_left (List.subperm_of_subset (nodup.filter _) others).length_le _

/-- A circuit that takes two probes closes with the second of them. -/
theorem closed_by_two_probes :
    let config : BreakerConfig :=
      { minimumCalls := 1, countThreshold := 1, openWait := ⟨10⟩, permittedProbes := 2 }
    let fresh := start "payments" config 0
    let log : List CallRequest :=
      [⟨⟨11, .success⟩, 1⟩, ⟨⟨10, .acquire⟩, 2⟩, ⟨⟨10, .acquire⟩, 1⟩, ⟨⟨0, .timeout⟩, 0⟩,
        ⟨⟨0, .acquire⟩, 0⟩]
    let last : CallRequest := ⟨⟨12, .success⟩, 2⟩
    Chronological 0 (requests (last :: log)) ∧ fresh.Guarded (last :: log) ∧
      (fresh.after log).circuit = .halfOpen ∧ (fresh.after (last :: log)).circuit = .closed ∧
      fresh.stale (last :: log) = [] ∧
      config.permittedProbes.toNat ≤
        ((fresh.succeeded (last :: log)).filter (· ∈ fresh.probes (last :: log))).length := by
  intro config fresh log last
  have ordered : Chronological 0 (requests (last :: log)) := by decide
  have guarded : fresh.Guarded (last :: log) := by decide +kernel
  have probing : (fresh.after log).circuit = .halfOpen := by decide +kernel
  have closes : (fresh.after (last :: log)).circuit = .closed := by decide +kernel
  have counted := closed_by_probes_and_stale "payments" config 0 last log ordered guarded probing
    closes
  have none : fresh.stale (last :: log) = [] := by decide +kernel
  have enough := counted.2.2.2
  rw [none, List.length_nil, Nat.add_zero] at enough
  exact ⟨ordered, guarded, probing, closes, none, enough⟩

/-- A circuit that takes two probes closes although one probe only has succeeded: the other success
is that of a call that was admitted before the circuit opened. -/
theorem closed_by_one_probe :
    let config : BreakerConfig :=
      { minimumCalls := 1, countThreshold := 1, openWait := ⟨10⟩, permittedProbes := 2 }
    let fresh := start "payments" config 0
    let log : List CallRequest :=
      [⟨⟨10, .success⟩, 2⟩, ⟨⟨10, .acquire⟩, 2⟩, ⟨⟨0, .timeout⟩, 0⟩, ⟨⟨0, .acquire⟩, 1⟩,
        ⟨⟨0, .acquire⟩, 0⟩]
    let last : CallRequest := ⟨⟨10, .success⟩, 1⟩
    Chronological 0 (requests (last :: log)) ∧ fresh.Guarded (last :: log) ∧
      (fresh.after log).circuit = .halfOpen ∧ (fresh.after (last :: log)).circuit = .closed ∧
      ((fresh.succeeded (last :: log)).filter (· ∈ fresh.probes (last :: log))).length <
        config.permittedProbes.toNat := by
  decide +kernel

end Breaker

end Resilience
