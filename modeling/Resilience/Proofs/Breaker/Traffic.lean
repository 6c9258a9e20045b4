import Resilience.Breaker.Guarded
import Resilience.Proofs.Breaker.Log
import Resilience.Proofs.EventLoop.Moves

/-!
# Traffic through a guard

Any number of guarded calls share a breaker. Each asks it for admission when it starts, and if it is
admitted it reports back when it ends: after the time it takes, or when its time is over, whichever
comes first, and an end that comes exactly then is still its own. In the meantime other calls start
and end, the circuit changes its state, and results may be reported to the breaker and admission
asked for directly.

None of this mixes the calls up. What the breaker has seen is a log in which every call has either
no request, a request for admission that was turned down, or one that was granted and, once the call
has ended, exactly one report after it. The totals of the breaker therefore count each call once.

## Main definitions

* `GuardedCall.takes`, `GuardedCall.lasts`, `GuardedCall.ending` — when and how a call ends
* `Traffic`, `Traffic.Move`, `Traffic.play` — calls and direct requests that share a breaker
* `TracedRequest`, `Breaker.IsTrace` — requests with the calls that make them and their answers
* `Fate` — how far a call has come
* `Guard.Begins` — all that the start of a call can come to
* `Accounts` — what the guard, the agenda and the breaker know of all calls

## Main statements

* `Guard.begin_accounts`, `Guard.finish_accounts` — the two ends of a call keep the accounts
* `Traffic.accounts_play` — all moves do
* `Traffic.accounted_once` — every call is accounted once
-/

namespace Resilience

variable {α : Type}

/-! ## The end of a call -/

namespace Duration

/-- The milliseconds of the longest wait. -/
def longestMillis : Nat := 946080000000

theorem waitMillis_ofMillis (millis : Nat) :
    (ofMillis millis).waitMillis = min millis longestMillis := by
  have whole (millis : Nat) : (ofMillis millis).ceilMillis = millis := by
    simp only [ceilMillis, ofMillis, nanosPerMilli]
    omega
  rw [waitMillis, wait]
  split
  · rename_i longer
    have longer : longestMillis * nanosPerMilli < millis * nanosPerMilli := longer
    have longest : longestWait = ofMillis longestMillis := rfl
    rw [longest, whole, Nat.min_eq_right (Nat.le_of_lt (Nat.lt_of_mul_lt_mul_right longer))]
  · rename_i notLonger
    have notLonger : ¬ longestMillis * nanosPerMilli < millis * nanosPerMilli := notLonger
    rw [whole, Nat.min_eq_left]
    exact Nat.le_of_mul_le_mul_right (Nat.le_of_not_lt notLonger) (by decide)

theorem waitMillis_le (duration : Duration) : duration.waitMillis ≤ longestMillis := by
  have longest : longestWait.nanos = longestMillis * nanosPerMilli := rfl
  rw [waitMillis, wait]
  split
  · exact Nat.le_of_eq rfl
  · rename_i notLonger
    have notLonger : ¬ longestWait.nanos < duration.nanos := notLonger
    simp only [ceilMillis, longest, nanosPerMilli] at notLonger ⊢
    omega

end Duration

namespace GuardedCall

/-- The milliseconds a call takes if nothing cuts it off: its latency, which is a timer of its own and
therefore no longer than the longest wait. -/
def takes (call : GuardedCall α) : Nat := call.latency.waitMillis

/-- The milliseconds from the admission of a call to its end under a limit. -/
def lasts (call : GuardedCall α) (limit : Nat) : Nat :=
  if limit < call.takes then limit else call.takes

/-- How a call ends under a limit. -/
def ending (call : GuardedCall α) (limit : Nat) : GuardedEnd α :=
  if limit < call.takes then .timedOut else .returned call.outcome

/-- A call that takes longer than its limit is cut off exactly then, and any other call goes on for
as long as it takes. -/
theorem course_ofMillis (call : GuardedCall α) (limit : Nat) :
    (call.course (.ofMillis limit)).1.waitMillis = call.lasts limit ∧
      (call.course (.ofMillis limit)).2 = call.ending limit := by
  have longest : call.takes ≤ Duration.longestMillis := call.latency.waitMillis_le
  rw [course, Duration.waitMillis_ofMillis, lasts, ending]
  by_cases late : limit < call.takes
  · have cut : ¬ call.latency.waitMillis ≤ min limit Duration.longestMillis := by
      rw [Nat.min_eq_left (by omega)]
      exact Nat.not_le_of_lt late
    rw [if_neg cut, if_pos late, if_pos late, Duration.waitMillis_ofMillis,
      Nat.min_eq_left (by omega)]
    exact ⟨rfl, rfl⟩
  · have ends : call.latency.waitMillis ≤ min limit Duration.longestMillis :=
      Nat.le_min.mpr ⟨Nat.le_of_not_lt late, longest⟩
    rw [if_pos ends, if_neg late, if_neg late]
    exact ⟨rfl, rfl⟩

end GuardedCall

namespace GuardedEnd

/-- What the caller of a call gets from a breaker. -/
def result (breaker : Breaker) : GuardedEnd α → Except Failure α
  | returned (.ok value) => .ok value
  | returned (.error fault) => .error (.exhausted breaker.name 1 fault)
  | timedOut => .error (.timedOut breaker.name breaker.config.callTimeout)

/-- What the breaker is told of a call. -/
def report : GuardedEnd α → BreakerRequest
  | returned (.ok _) => .success
  | returned (.error fault) => .fault fault
  | timedOut => .timeout

end GuardedEnd

theorem Guard.conclude_eq (breaker : Breaker) (ending : GuardedEnd α) (now : Instant) :
    conclude breaker ending now = (ending.result breaker, breaker.perform now ending.report) := by
  match ending with
  | .returned (.ok _) | .returned (.error _) | .timedOut => rfl

/-! ## Requests and notes -/

/-- A request with the call that makes it, or without one if it is made directly, and its answer:
whether a request for admission is granted, and nothing for the others. -/
structure TracedRequest extends TimedRequest where
  call : Option Nat
  answer : Except Denial Unit

namespace Breaker

/-- What a breaker answers to a request. -/
def reply (breaker : Breaker) (now : Instant) : BreakerRequest → Except Denial Unit
  | .acquire => (breaker.acquire now).1
  | .success | .fault _ | .timeout | .inspect | .reset | .forceOpen | .forceClosed
  | .startProbing => .ok ()

/-- The breaker after a trace, the latest request first. -/
def traced (breaker : Breaker) (trace : List TracedRequest) : Breaker :=
  breaker.replay (trace.map (·.toTimedRequest))

/-- Each request of a trace has the answer that the breaker gives after the requests before it. -/
def IsTrace (breaker : Breaker) : List TracedRequest → Prop
  | [] => True
  | entry :: earlier =>
    entry.answer = (breaker.traced earlier).reply entry.instant entry.request ∧
      breaker.IsTrace earlier

theorem turnsDown_eq (breaker : Breaker) (now : Instant) (request : BreakerRequest) :
    breaker.turnsDown now request = !(breaker.reply now request).isOk := by
  cases request <;> rfl

/-- A report has no answer. -/
theorem reply_report (breaker : Breaker) (now : Instant) (ending : GuardedEnd α) :
    breaker.reply now ending.report = .ok () := by
  match ending with
  | .returned (.ok _) | .returned (.error _) | .timedOut => rfl

end Breaker

namespace TracedRequest

/-- Whether a request reports a result that counts. -/
def isCounted (config : BreakerConfig) (entry : TracedRequest) : Bool :=
  (entry.request.record? config).isSome

/-- Whether a request for admission is turned down. -/
def isDenied (entry : TracedRequest) : Bool := !entry.answer.isOk

end TracedRequest

namespace GuardedNote

def call : GuardedNote α → Nat
  | denied call _ _ | admitted call _ | ended call _ _ => call

/-- Whether a call was turned down. -/
def isDenied : GuardedNote α → Bool
  | denied .. => true
  | admitted .. | ended .. => false

/-- Whether a call has ended, and not with a fault that the filter leaves uncounted. -/
def isCounted (filter : FaultFilter) : GuardedNote α → Bool
  | ended _ _ (.error (.exhausted _ _ fault)) => filter.counts fault
  | ended .. => true
  | denied .. | admitted .. => false

/-- The result that a note tells of a call. -/
def result? (breaker : Breaker) : GuardedNote α → Option (Except Failure α)
  | denied _ _ denial => some (.error (breaker.denied denial))
  | ended _ _ result => some result
  | admitted .. => none

/-- A call that ends is counted if its report is. -/
theorem isCounted_ended (breaker : Breaker) (ending : GuardedEnd α) (call time : Nat) :
    (ended call time (ending.result breaker)).isCounted breaker.config.filter =
      (ending.report.record? breaker.config).isSome := by
  match ending with
  | .returned (.ok _) => rfl
  | .returned (.error fault) =>
    show breaker.config.filter.counts fault =
      (if breaker.config.filter.counts fault then some CallRecord.failed else none).isSome
    cases breaker.config.filter.counts fault <;> rfl
  | .timedOut => rfl

end GuardedNote

def GuardedTask.call : GuardedTask α → Nat
  | begin call _ | finish call _ => call

/-! ## Traffic -/

/-- Calls that share a breaker, with the requests made to it directly. -/
structure Traffic (α : Type) where
  run : Run (Guard α) (GuardedTask α)
  /-- The calls made so far; the number of a call is its place in the list. -/
  calls : List (GuardedCall α) := []
  /-- The direct requests so far, the latest first. -/
  direct : List TracedRequest := []

namespace Traffic

/-- What can happen to calls that share a breaker. -/
inductive Move (α : Type)
  /-- A task takes its turn, or the clock moves on. -/
  | loop (move : LoopMove)
  /-- A call that starts at once. -/
  | call (call : GuardedCall α)
  /-- A call that starts when its turn comes. -/
  | spawn (call : GuardedCall α)
  /-- A direct request to the breaker. -/
  | request (request : BreakerRequest)

/-- What a move does. -/
def after (traffic : Traffic α) : Move α → Traffic α
  | .loop move => { traffic with run := Guard.reactor.move traffic.run move }
  | .call call =>
    { traffic with
      run := Guard.begin traffic.calls.length call traffic.run
      calls := traffic.calls ++ [call] }
  | .spawn call =>
    { traffic with
      run := traffic.run.mapLoop (·.spawn { body := .begin traffic.calls.length call })
      calls := traffic.calls ++ [call] }
  | .request request =>
    let breaker := traffic.run.state.breaker
    let now := traffic.run.loop.instant
    { traffic with
      run := traffic.run.mapState (·.apply (breaker.perform now request))
      direct := ⟨⟨now, request⟩, none, breaker.reply now request⟩ :: traffic.direct }

/-- The traffic after several moves. -/
def play (traffic : Traffic α) (moves : List (Move α)) : Traffic α := moves.foldl after traffic

/-- A breaker without calls. -/
def opening (fresh : Breaker) (now : Nat) : Traffic α :=
  { run := { loop := { now }, state := { breaker := fresh } } }

end Traffic

/-! ## Accounts -/

theorem countP_cons_toNat {β : Type} (p : β → Bool) (first : β) (list : List β) :
    (first :: list).countP p = list.countP p + (p first).toNat := by
  rw [List.countP_cons]
  cases p first <;> rfl

theorem countP_concat {β : Type} (p : β → Bool) (list : List β) (last : β) :
    (list ++ [last]).countP p = list.countP p + (p last).toNat := by
  rw [List.countP_append, List.countP_singleton]
  cases p last <;> rfl

/-- What has been noted of a call. -/
def Guard.notes (guard : Guard α) (call : Nat) : List (GuardedNote α) :=
  guard.history.filter (·.call = call)

theorem Guard.result?_eq (guard : Guard α) (id : Nat) :
    guard.result? id = (guard.notes id).findSome? (·.result? guard.breaker) := by
  rw [Guard.result?, Guard.notes]
  induction guard.history with
  | nil => rfl
  | cons first rest ih =>
    rw [List.findSome?_cons, List.filter_cons, ih]
    by_cases mine : first.call = id
    · rw [if_pos (by simpa using mine), List.findSome?_cons]
      cases first <;> simp_all [GuardedNote.call, GuardedNote.result?]
    · rw [if_neg (by simpa using mine)]
      cases first <;> simp_all [GuardedNote.call]

/-- The requests that a call has made, the latest first. -/
def madeBy (call : Nat) (trace : List TracedRequest) : List TracedRequest :=
  trace.filter (·.call = some call)

/-- What is still to happen to a call. -/
def upcoming (call : Nat) (agenda : Multiset (Appointment (GuardedTask α))) :
    Multiset (Appointment (GuardedTask α)) :=
  agenda.filter (·.body.call = call)

section

variable {agenda : Multiset (Appointment (GuardedTask α))} {item : Appointment (GuardedTask α)}
variable {call : Nat}

theorem upcoming_cons_self (mine : item.body.call = call) :
    upcoming call (item ::ₘ agenda) = item ::ₘ upcoming call agenda :=
  Multiset.filter_cons_of_pos _ mine

theorem upcoming_cons_of_ne (other : item.body.call ≠ call) :
    upcoming call (item ::ₘ agenda) = upcoming call agenda :=
  Multiset.filter_cons_of_neg _ other

end

/-- How far a call has come under a limit: what has been noted of it, its requests to the breaker,
the latest first, and what is still to happen. -/
inductive Fate (fresh : Breaker) (limit id : Nat) : Option (GuardedCall α) →
    List (GuardedNote α) → List TracedRequest → Multiset (Appointment (GuardedTask α)) → Prop
  /-- There is no such call yet. -/
  | unknown : Fate fresh limit id none [] [] 0
  /-- The call is still to start. -/
  | waiting {call : GuardedCall α} (due : Nat) :
    Fate fresh limit id (some call) [] [] {⟨due, none, .begin id call⟩}
  /-- The call was turned down, and that is all. -/
  | denied {call : GuardedCall α} (start : Nat) (denial : Denial) :
    Fate fresh limit id (some call) [.denied id start denial]
      [⟨⟨Instant.ofMillis start, .acquire⟩, some id, .error denial⟩] 0
  /-- The call was admitted, and its end is still to come. -/
  | underWay {call : GuardedCall α} (start : Nat) :
    Fate fresh limit id (some call) [.admitted id start]
      [⟨⟨Instant.ofMillis start, .acquire⟩, some id, .ok ()⟩]
      {⟨start + call.lasts limit, none, .finish id (call.ending limit)⟩}
  /-- The call was admitted and has ended in its time. -/
  | ended {call : GuardedCall α} (start : Nat) :
    Fate fresh limit id (some call)
      [.admitted id start,
        .ended id (start + call.lasts limit) ((call.ending limit).result fresh)]
      [⟨⟨Instant.ofMillis (start + call.lasts limit), (call.ending limit).report⟩, some id, .ok ()⟩,
        ⟨⟨Instant.ofMillis start, .acquire⟩, some id, .ok ()⟩] 0

/-- What a guard, the agenda of its loop and a trace of its breaker say of the calls made so far and
of the requests made directly. -/
structure Accounts (fresh : Breaker) (limit : Nat) (calls : List (GuardedCall α))
    (requests : List TracedRequest) (guard : Guard α)
    (agenda : Multiset (Appointment (GuardedTask α))) (trace : List TracedRequest) : Prop where
  breaker : guard.breaker = fresh.traced trace
  isTrace : fresh.IsTrace trace
  direct : trace.filter (·.call = none) = requests
  fate : ∀ id, Fate fresh limit id calls[id]? (guard.notes id) (madeBy id trace)
    (upcoming id agenda)
  total : guard.breaker.totals.calls = fresh.totals.calls +
    requests.countP (·.isCounted fresh.config) +
      guard.history.countP (·.isCounted fresh.config.filter)
  rejections : guard.breaker.totals.rejections = fresh.totals.rejections +
    requests.countP (·.isDenied) + guard.history.countP (·.isDenied)

namespace Fate

variable {fresh : Breaker} {limit id due : Nat} {owner : Option Nat} {found : Option (GuardedCall α)}
variable {call : GuardedCall α} {notes : List (GuardedNote α)} {requests : List TracedRequest}
variable {appointments rest : Multiset (Appointment (GuardedTask α))} {number : Nat}

theorem of_unknown (fate : Fate fresh limit id none notes requests appointments) :
    notes = [] ∧ requests = [] ∧ appointments = 0 := by
  cases fate
  exact ⟨rfl, rfl, rfl⟩

/-- A call that is still to start has left no mark. -/
theorem of_begin (fate : Fate fresh limit id found notes requests appointments)
    (first : appointments = ⟨due, owner, .begin number call⟩ ::ₘ rest) :
    found = some call ∧ notes = [] ∧ requests = [] ∧ rest = 0 := by
  cases fate with
  | unknown | denied | ended => exact absurd first Multiset.zero_ne_cons
  | waiting =>
    obtain ⟨same, rfl⟩ := (Multiset.singleton_eq_cons_iff _).mp first
    cases same
    exact ⟨rfl, rfl, rfl, rfl⟩
  | underWay => cases ((Multiset.singleton_eq_cons_iff _).mp first).1

/-- A call that is still to end has been admitted, and ends in its time. -/
theorem of_finish {ending : GuardedEnd α}
    (fate : Fate fresh limit id found notes requests appointments)
    (first : appointments = ⟨due, owner, .finish number ending⟩ ::ₘ rest) :
    ∃ call start, found = some call ∧ due = start + call.lasts limit ∧
      ending = call.ending limit ∧ notes = [.admitted id start] ∧
      requests = [⟨⟨Instant.ofMillis start, .acquire⟩, some id, .ok ()⟩] ∧ rest = 0 := by
  cases fate with
  | unknown | denied | ended => exact absurd first Multiset.zero_ne_cons
  | waiting => cases ((Multiset.singleton_eq_cons_iff _).mp first).1
  | underWay start =>
    obtain ⟨same, rfl⟩ := (Multiset.singleton_eq_cons_iff _).mp first
    cases same
    exact ⟨_, start, rfl, rfl, rfl, rfl, rfl, rfl⟩

/-- A call to which nothing is still to happen has a result. -/
theorem isSome_result (fate : Fate fresh limit id (some call) notes requests 0) :
    (notes.findSome? (·.result? fresh)).isSome = true := by
  generalize idle : (0 : Multiset (Appointment (GuardedTask α))) = appointments at fate
  cases fate with
  | denied | ended => rfl
  | waiting | underWay => exact absurd idle.symm (Multiset.singleton_ne_zero _)

end Fate

namespace Accounts

variable {fresh : Breaker} {limit : Nat} {calls : List (GuardedCall α)}
variable {requests : List TracedRequest} {guard : Guard α}
variable {agenda : Multiset (Appointment (GuardedTask α))} {trace : List TracedRequest}

/-- A breaker without calls has nothing to account for. -/
theorem opening (fresh : Breaker) (limit : Nat) :
    Accounts fresh limit ([] : List (GuardedCall α)) [] { breaker := fresh } 0 [] where
  breaker := rfl
  isTrace := trivial
  direct := rfl
  fate _ := .unknown
  total := rfl
  rejections := rfl

theorem config_eq (accounts : Accounts fresh limit calls requests guard agenda trace) :
    guard.breaker.config = fresh.config := by
  rw [accounts.breaker]
  exact fresh.replay_config _

theorem name_eq (accounts : Accounts fresh limit calls requests guard agenda trace) :
    guard.breaker.name = fresh.name := by
  rw [accounts.breaker]
  exact fresh.replay_name _

theorem result_eq (accounts : Accounts fresh limit calls requests guard agenda trace)
    (ending : GuardedEnd α) : ending.result guard.breaker = ending.result fresh := by
  match ending with
  | .returned (.ok _) => rfl
  | .returned (.error _) => rw [GuardedEnd.result, GuardedEnd.result, accounts.name_eq]
  | .timedOut => rw [GuardedEnd.result, GuardedEnd.result, accounts.name_eq, accounts.config_eq]

/-- The caller of a call gets what is noted of it. -/
theorem result?_eq (accounts : Accounts fresh limit calls requests guard agenda trace) (id : Nat) :
    guard.result? id = (guard.notes id).findSome? (·.result? fresh) := by
  have told (note : GuardedNote α) : note.result? guard.breaker = note.result? fresh := by
    match note with
    | .denied _ _ denial =>
      rw [GuardedNote.result?, Breaker.denied, accounts.name_eq, GuardedNote.result?, Breaker.denied]
    | .admitted .. | .ended .. => rfl
  rw [guard.result?_eq]
  exact congrArg (fun tell => List.findSome? tell _) (funext told)

/-- A new call has not started. -/
theorem enlist (accounts : Accounts fresh limit calls requests guard agenda trace)
    (call : GuardedCall α) (now : Nat) :
    Accounts fresh limit (calls ++ [call]) requests guard
      (⟨now, none, .begin calls.length call⟩ ::ₘ agenda) trace where
  __ := accounts
  fate id := by
    have before := accounts.fate id
    let start : Appointment (GuardedTask α) := ⟨now, none, .begin calls.length call⟩
    have number : start.body.call = calls.length := rfl
    by_cases new : calls.length = id
    · subst new
      rw [List.getElem?_eq_none (Nat.le_refl _)] at before
      obtain ⟨notes, made, nothing⟩ := before.of_unknown
      rw [List.getElem?_concat_length, upcoming_cons_self number, notes, made, nothing]
      exact .waiting now
    · rw [upcoming_cons_of_ne (number ▸ new)]
      have same : (calls ++ [call])[id]? = calls[id]? := by
        rw [List.getElem?_append]
        split
        · rfl
        · rw [List.getElem?_eq_none (by simp; omega), List.getElem?_eq_none (by omega)]
      rwa [same]

/-- A call makes a request and notes it, and its task gives way to what is still to happen. -/
theorem proceed {item : Appointment (GuardedTask α)}
    (accounts : Accounts fresh limit calls requests guard (item ::ₘ agenda) trace) (id now : Nat)
    (request : BreakerRequest) (note : GuardedNote α)
    (next : Multiset (Appointment (GuardedTask α)))
    (due : item.body.call = id) (noted : note.call = id)
    (following : ∀ later ∈ next, later.body.call = id)
    (counted : note.isCounted fresh.config.filter = (request.record? fresh.config).isSome)
    (denied : note.isDenied = guard.breaker.turnsDown (Instant.ofMillis now) request)
    (fate : Fate fresh limit id calls[id]? (guard.notes id ++ [note])
      (⟨⟨Instant.ofMillis now, request⟩, some id,
        guard.breaker.reply (Instant.ofMillis now) request⟩ :: madeBy id trace)
      (next + upcoming id agenda)) :
    Accounts fresh limit calls requests
      ((guard.apply (guard.breaker.perform (Instant.ofMillis now) request)).note note)
      (next + agenda)
      (⟨⟨Instant.ofMillis now, request⟩, some id,
        guard.breaker.reply (Instant.ofMillis now) request⟩ :: trace) where
  breaker := congrArg (fun breaker => (breaker.perform (Instant.ofMillis now) request).breaker)
    accounts.breaker
  isTrace := ⟨congrArg (fun breaker => breaker.reply (Instant.ofMillis now) request)
    accounts.breaker, accounts.isTrace⟩
  direct := by rw [List.filter_cons_of_neg (by simp), accounts.direct]
  fate other := by
    have notes : ((guard.apply (guard.breaker.perform (Instant.ofMillis now) request)).note
        note).notes other = guard.notes other ++ [note].filter (·.call = other) :=
      List.filter_append _ _
    rw [notes, upcoming, Multiset.filter_add]
    -- the request and the note are those of one call, and the fates of all others stay
    by_cases mine : id = other
    · subst mine
      rw [List.filter_cons_of_pos (by simp [noted]), List.filter_nil,
        Multiset.filter_eq_self.mpr following, madeBy, List.filter_cons_of_pos (by simp)]
      exact fate
    · have nothing : next.filter (·.body.call = other) = 0 :=
        Multiset.filter_eq_nil.mpr fun later member same => mine ((following later member).symm.trans same)
      rw [List.filter_cons_of_neg (by simp [noted, mine]), List.filter_nil, List.append_nil, nothing,
        Multiset.zero_add, madeBy, List.filter_cons_of_neg (by simp [mine])]
      have before := accounts.fate other
      rwa [upcoming_cons_of_ne (due ▸ mine)] at before
  total := by
    obtain ⟨total, -⟩ := guard.breaker.totals_perform (Instant.ofMillis now) request
    refine total.trans ?_
    rw [accounts.total, accounts.config_eq, ← counted, Nat.add_assoc]
    exact congrArg _ (countP_concat _ _ _).symm
  rejections := by
    obtain ⟨-, rejections⟩ := guard.breaker.totals_perform (Instant.ofMillis now) request
    refine rejections.trans ?_
    rw [accounts.rejections, ← denied, Nat.add_assoc]
    exact congrArg _ (countP_concat _ _ _).symm

/-- A direct request changes no call. -/
theorem request (accounts : Accounts fresh limit calls requests guard agenda trace) (now : Instant)
    (request : BreakerRequest) :
    let entry : TracedRequest := ⟨⟨now, request⟩, none, guard.breaker.reply now request⟩
    Accounts fresh limit calls (entry :: requests)
      (guard.apply (guard.breaker.perform now request)) agenda (entry :: trace) where
  breaker := congrArg (fun breaker => (breaker.perform now request).breaker) accounts.breaker
  isTrace := ⟨congrArg (fun breaker => breaker.reply now request) accounts.breaker,
    accounts.isTrace⟩
  direct := by rw [List.filter_cons_of_pos (by simp), accounts.direct]
  fate id := by
    rw [madeBy, List.filter_cons_of_neg (by simp)]
    exact accounts.fate id
  total := by
    obtain ⟨total, -⟩ := guard.breaker.totals_perform now request
    refine total.trans ?_
    rw [accounts.total, accounts.config_eq, countP_cons_toNat]
    exact (Nat.add_right_comm _ _ _).trans (congrArg (· + _) (Nat.add_assoc _ _ _))
  rejections := by
    obtain ⟨-, rejections⟩ := guard.breaker.totals_perform now request
    refine rejections.trans ?_
    rw [accounts.rejections, guard.breaker.turnsDown_eq, countP_cons_toNat]
    exact (Nat.add_right_comm _ _ _).trans (congrArg (· + _) (Nat.add_assoc _ _ _))

variable {now id : Nat} {owner : Option Nat} {call : GuardedCall α} {ending : GuardedEnd α}

/-- A call whose turn it is to start has left no mark. -/
theorem of_begin
    (accounts : Accounts fresh limit calls requests guard (⟨now, owner, .begin id call⟩ ::ₘ agenda)
      trace) :
    calls[id]? = some call ∧ guard.notes id = [] ∧ madeBy id trace = [] ∧ upcoming id agenda = 0 :=
  (accounts.fate id).of_begin (Multiset.filter_cons_of_pos _ rfl)

/-- A call whose turn it is to end has been admitted before. -/
theorem of_finish
    (accounts : Accounts fresh limit calls requests guard (⟨now, owner, .finish id ending⟩ ::ₘ agenda)
      trace) :
    ∃ call start, calls[id]? = some call ∧ now = start + call.lasts limit ∧
      ending = call.ending limit ∧ guard.notes id = [.admitted id start] ∧
      madeBy id trace = [⟨⟨Instant.ofMillis start, .acquire⟩, some id, .ok ()⟩] ∧
      upcoming id agenda = 0 :=
  (accounts.fate id).of_finish (Multiset.filter_cons_of_pos _ rfl)

/-- A call that is turned down is done. -/
theorem deny {denial : Denial} {change : Breaker.Change}
    (accounts : Accounts fresh limit calls requests guard (⟨now, owner, .begin id call⟩ ::ₘ agenda)
      trace)
    (asked : guard.breaker.acquire (Instant.ofMillis now) = (.error denial, change)) :
    ∃ trace, Accounts fresh limit calls requests
      ((guard.apply change).note (.denied id now denial)) agenda trace := by
  obtain ⟨found, notes, made, nothing⟩ := accounts.of_begin
  have done := accounts.proceed id now .acquire (.denied id now denial) 0 rfl rfl nofun rfl
    (by rw [guard.breaker.turnsDown_eq, Breaker.reply, asked]; rfl) (by
      rw [found, notes, made, nothing, Breaker.reply, asked]
      exact .denied now denial)
  rw [Multiset.zero_add, Breaker.perform, asked] at done
  exact ⟨_, done⟩

/-- A call that is admitted ends in its time. -/
theorem grant {change : Breaker.Change}
    (accounts : Accounts fresh limit calls requests guard (⟨now, owner, .begin id call⟩ ::ₘ agenda)
      trace)
    (asked : guard.breaker.acquire (Instant.ofMillis now) = (.ok (), change)) :
    ∃ trace, Accounts fresh limit calls requests ((guard.apply change).note (.admitted id now))
      (⟨now + call.lasts limit, none, .finish id (call.ending limit)⟩ ::ₘ agenda) trace := by
  obtain ⟨found, notes, made, nothing⟩ := accounts.of_begin
  have following : ∀ later ∈ ({⟨now + call.lasts limit, none, .finish id (call.ending limit)⟩} :
      Multiset (Appointment (GuardedTask α))), later.body.call = id := by
    intro later member
    obtain rfl := Multiset.mem_singleton.mp member
    rfl
  have going := accounts.proceed id now .acquire (.admitted id now) _ rfl rfl following rfl
    (by rw [guard.breaker.turnsDown_eq, Breaker.reply, asked]; rfl) (by
      rw [found, notes, made, nothing, Breaker.reply, asked, Multiset.add_zero]
      exact .underWay now)
  rw [Multiset.singleton_add, Breaker.perform, asked] at going
  exact ⟨_, going⟩

/-- A call that ends reports its result once. -/
theorem conclude
    (accounts : Accounts fresh limit calls requests guard (⟨now, owner, .finish id ending⟩ ::ₘ agenda)
      trace) :
    ∃ trace, Accounts fresh limit calls requests
      ((guard.apply (guard.breaker.perform (Instant.ofMillis now) ending.report)).note
        (.ended id now (ending.result guard.breaker))) agenda trace := by
  obtain ⟨call, start, found, rfl, rfl, notes, made, nothing⟩ := accounts.of_finish
  rw [accounts.result_eq]
  have done := accounts.proceed id (start + call.lasts limit) (call.ending limit).report
    (.ended id (start + call.lasts limit) ((call.ending limit).result fresh)) 0
    rfl rfl nofun (GuardedNote.isCounted_ended fresh _ _ _)
    (by rw [guard.breaker.turnsDown_eq, Breaker.reply_report]; rfl) (by
      rw [found, notes, made, nothing, Breaker.reply_report]
      exact .ended start)
  rw [Multiset.zero_add] at done
  exact ⟨_, done⟩

end Accounts

/-! ## Turns and moves -/

namespace Guard

variable {fresh : Breaker} {limit : Nat} {calls : List (GuardedCall α)}
variable {requests trace : List TracedRequest} {run next : Run (Guard α) (GuardedTask α)}
variable {id : Nat} {owner : Option Nat} {call : GuardedCall α} {ending : GuardedEnd α}
variable {change : Breaker.Change} {wait : Duration}

/-- The end of a call keeps the accounts. -/
theorem finish_accounts
    (accounts : Accounts fresh limit calls requests run.state
      (⟨run.loop.now, owner, .finish id ending⟩ ::ₘ run.loop.agenda) trace) :
    ∃ trace, Accounts fresh limit calls requests (finish id ending run).state
      (finish id ending run).loop.agenda trace := by
  rw [finish, conclude_eq]
  exact accounts.conclude

/-- All that the start of a call can come to. -/
inductive Begins (id : Nat) (call : GuardedCall α) (run : Run (Guard α) (GuardedTask α)) :
    Run (Guard α) (GuardedTask α) → Prop
  | denied {denial : Denial} {change : Breaker.Change}
      (asked : run.state.breaker.acquire run.loop.instant = (.error denial, change)) :
    Begins id call run
      (run.mapState fun guard => (guard.apply change).note (.denied id run.loop.now denial))
  /-- The call takes no time, and ends in the same turn. -/
  | atOnce {change : Breaker.Change} {ending : GuardedEnd α}
      (asked : run.state.breaker.acquire run.loop.instant = (.ok (), change))
      (course : call.course change.breaker.config.callTimeout = (.zero, ending)) :
    Begins id call run
      (finish id ending
        (run.mapState fun guard => (guard.apply change).note (.admitted id run.loop.now)))
  /-- The end of the call is a task of its own. -/
  | lasting {change : Breaker.Change} {wait : Duration} {ending : GuardedEnd α}
      (asked : run.state.breaker.acquire run.loop.instant = (.ok (), change))
      (course : call.course change.breaker.config.callTimeout = (wait, ending)) :
    Begins id call run
      { loop := run.loop.sleep wait { body := .finish id ending }
        state := (run.state.apply change).note (.admitted id run.loop.now) }

theorem begins (id : Nat) (call : GuardedCall α) (run : Run (Guard α) (GuardedTask α)) :
    Begins id call run (begin id call run) := by
  -- with the course as a variable nothing can unfold it down to the nanoseconds of a timer
  obtain ⟨courseOf, same⟩ : ∃ courseOf, call.course = courseOf := ⟨_, rfl⟩
  rw [begin, same]
  rcases asked : run.state.breaker.acquire run.loop.instant with ⟨denial | granted, change⟩
  · exact .denied asked
  · rcases course : courseOf change.breaker.config.callTimeout with ⟨wait, ending⟩
    dsimp only [Run.mapState, apply, note]
    rw [course]
    dsimp only
    split
    · rename_i none
      exact .atOnce asked (by rw [same, course, none])
    · exact .lasting asked (by rw [same, course])

/-- An admitted call takes its time, and then it has its end. -/
theorem course_of_admitted {agenda : Multiset (Appointment (GuardedTask α))}
    (whole : fresh.config.callTimeout = .ofMillis limit)
    (accounts : Accounts fresh limit calls requests run.state agenda trace)
    (asked : run.state.breaker.acquire run.loop.instant = (.ok (), change))
    (course : call.course change.breaker.config.callTimeout = (wait, ending)) :
    wait.waitMillis = call.lasts limit ∧ ending = call.ending limit := by
  obtain ⟨config, -⟩ := run.state.breaker.acquire_fixed run.loop.instant
  rw [asked, accounts.config_eq] at config
  have timeout : change.breaker.config.callTimeout = .ofMillis limit :=
    (congrArg BreakerConfig.callTimeout config).trans whole
  obtain ⟨lasts, ends⟩ := call.course_ofMillis limit
  rw [← timeout, course] at lasts ends
  exact ⟨lasts, ends⟩

/-- The start of a call keeps the accounts, whether it is turned down, is over at once or goes on. -/
theorem begin_accounts (whole : fresh.config.callTimeout = .ofMillis limit)
    (accounts : Accounts fresh limit calls requests run.state
      (⟨run.loop.now, owner, .begin id call⟩ ::ₘ run.loop.agenda) trace) :
    ∃ trace, Accounts fresh limit calls requests (begin id call run).state
      (begin id call run).loop.agenda trace := by
  have begins := begins id call run
  generalize begin id call run = next at begins ⊢
  cases begins with
  | denied asked => exact accounts.deny asked
  | atOnce asked course =>
    obtain ⟨lasts, rfl⟩ := course_of_admitted whole accounts asked course
    obtain ⟨trace, admitted⟩ := accounts.grant asked
    rw [← lasts, Duration.waitMillis_zero] at admitted
    exact finish_accounts admitted
  | lasting asked course =>
    obtain ⟨lasts, rfl⟩ := course_of_admitted whole accounts asked course
    obtain ⟨trace, admitted⟩ := accounts.grant asked
    refine ⟨trace, ?_⟩
    rw [EventLoop.agenda_sleep, Task.appointment, lasts, Duration.waitMillis_zero, Nat.add_zero]
    exact admitted

/-- A turn keeps the accounts. -/
theorem turn_accounts (whole : fresh.config.callTimeout = .ofMillis limit)
    (accounts : Accounts fresh limit calls requests run.state run.loop.agenda trace)
    (taken : reactor.turn? run = some next) :
    ∃ trace, Accounts fresh limit calls requests next.state next.loop.agenda trace := by
  rcases Reactor.turn?_cases taken with ⟨agenda, state, -, -⟩ | ⟨task, rest, -, -, agenda, rfl⟩
  · exact ⟨trace, by rwa [agenda, state]⟩
  · rw [agenda] at accounts
    match task with
    | ⟨_, _, .begin _ _⟩ => exact begin_accounts whole accounts
    | ⟨_, _, .finish _ _⟩ => exact finish_accounts accounts

/-- The start of a call takes no time and keeps the timers in order. -/
theorem begin_punctual (id : Nat) (call : GuardedCall α) (run : Run (Guard α) (GuardedTask α)) :
    (begin id call run).loop.now = run.loop.now ∧
      (run.loop.Ordered → (begin id call run).loop.Ordered) := by
  have begins := begins id call run
  generalize begin id call run = next at begins ⊢
  cases begins with
  | denied | atOnce => exact ⟨rfl, fun ordered => ordered⟩
  | lasting => exact ⟨rfl, fun ordered => ordered.sleep _ _⟩

theorem reactor_punctual : (reactor (α := α)).Punctual where
  now task run := by
    match task with
    | ⟨_, _, .begin id call⟩ => exact (begin_punctual id call run).1
    | ⟨_, _, .finish _ _⟩ => rfl
  ordered task run ordered := by
    match task with
    | ⟨_, _, .begin id call⟩ => exact (begin_punctual id call run).2 ordered
    | ⟨_, _, .finish _ _⟩ => exact ordered

end Guard

namespace Traffic

variable {fresh : Breaker} {limit : Nat} {traffic : Traffic α}

/-- Some trace of the breaker accounts for all calls, and no timer is overdue. -/
def Accounted (fresh : Breaker) (limit : Nat) (traffic : Traffic α) : Prop :=
  (∃ trace, Accounts fresh limit traffic.calls traffic.direct traffic.run.state
    traffic.run.loop.agenda trace) ∧ traffic.run.loop.Ordered

theorem Accounted.after (whole : fresh.config.callTimeout = .ofMillis limit)
    (accounted : Accounted fresh limit traffic) (move : Move α) :
    Accounted fresh limit (traffic.after move) := by
  obtain ⟨⟨trace, accounts⟩, ordered⟩ := accounted
  cases move with
  | loop move =>
    have comes := Guard.reactor.comes traffic.run move
    rw [Traffic.after]
    generalize Guard.reactor.move traffic.run move = next at comes ⊢
    cases comes with
    | still => exact ⟨⟨trace, accounts⟩, ordered⟩
    | turned taken =>
      exact ⟨Guard.turn_accounts whole accounts taken,
        (Guard.reactor_punctual.turn? taken).2 ordered⟩
    | jumped reaches =>
      have agenda := EventLoop.agenda_wakeAt reaches
      exact ⟨⟨trace, agenda ▸ accounts⟩, ordered.wakeAt reaches⟩
  -- a call is enlisted as a task, and takes its first turn at once
  | call call =>
    obtain ⟨trace, begun⟩ :=
      Guard.begin_accounts whole (accounts.enlist call traffic.run.loop.now)
    exact ⟨⟨trace, begun⟩, (Guard.begin_punctual _ _ _).2 ordered⟩
  | spawn call =>
    refine ⟨⟨trace, ?_⟩, ordered.spawn _⟩
    simp only [Traffic.after, Run.mapLoop, EventLoop.agenda_spawn, Task.appointment,
      Duration.waitMillis_zero, Nat.add_zero]
    exact accounts.enlist call traffic.run.loop.now
  | request request => exact ⟨⟨_, accounts.request _ request⟩, ordered⟩

theorem accounts_play (whole : fresh.config.callTimeout = .ofMillis limit) (now : Nat)
    (moves : List (Move α)) : Accounted fresh limit ((opening fresh now).play moves) := by
  have kept (traffic : Traffic α) (accounted : Accounted fresh limit traffic) :
      Accounted fresh limit (traffic.play moves) := by
    induction moves generalizing traffic with
    | nil => exact accounted
    | cons first moves ih => exact ih _ (accounted.after whole first)
  exact kept _ ⟨⟨[], .opening fresh limit⟩, .nil, nofun⟩

/-- A call that is waited for is made, and then the loop moves. -/
theorem call_eq_play (turns : Nat) (call : GuardedCall α) (ordered : traffic.run.loop.Ordered) :
    ∃ moves : List LoopMove, Guard.call turns traffic.calls.length call traffic.run =
      ((traffic.after (.call call)).play (moves.map .loop)).run := by
  have begun := (Guard.begin_punctual traffic.calls.length call traffic.run).2 ordered
  obtain ⟨moves, reached⟩ := Reactor.runUntil_eq_play Guard.reactor_punctual
    (fun run => (run.state.result? traffic.calls.length).isSome) turns begun
  refine ⟨moves, reached.trans ?_⟩
  have played (moves : List LoopMove) (traffic : Traffic α) :
      Guard.reactor.play traffic.run moves = (traffic.play (moves.map .loop)).run := by
    induction moves generalizing traffic with
    | nil => rfl
    | cons first moves ih => exact ih (traffic.after (.loop first))
  exact played moves (traffic.after (.call call))

/-- Every call is accounted once, however calls overlap with each other and with direct requests. A
trace of requests and answers leads to the state of the breaker, and in it a call has made no
request, one for admission, or after a granted one exactly one report; only a granted one is
followed by an end. A call that takes longer than the limit is cut off exactly then, and any other
ends with its own result after the time it takes. No end is late, and once nothing is left to happen
all calls have results. On top of what was requested directly, the breaker has counted the calls that
have ended, except for faults that its filter overlooks, and as rejections those that it turned
down. -/
theorem accounted_once (fresh : Breaker) (limit : Nat)
    (whole : fresh.config.callTimeout = .ofMillis limit) (now : Nat) (moves : List (Move α)) :
    let traffic := (opening fresh now).play moves
    let guard := traffic.run.state
    let agenda := traffic.run.loop.agenda
    ∃ trace, guard.breaker = fresh.traced trace ∧ fresh.IsTrace trace ∧
      trace.filter (·.call = none) = traffic.direct ∧
      (∀ id,
        Fate fresh limit id traffic.calls[id]? (guard.notes id) (madeBy id trace)
            (upcoming id agenda) ∧
          guard.result? id = (guard.notes id).findSome? (·.result? fresh)) ∧
      (∀ item ∈ agenda, traffic.run.loop.now ≤ item.due) ∧
      (agenda = 0 → ∀ id < traffic.calls.length, (guard.result? id).isSome = true) ∧
      guard.breaker.totals.calls = fresh.totals.calls +
        traffic.direct.countP (·.isCounted fresh.config) +
          guard.history.countP (·.isCounted fresh.config.filter) ∧
      guard.breaker.totals.rejections = fresh.totals.rejections +
        traffic.direct.countP (·.isDenied) + guard.history.countP (·.isDenied) := by
  intro traffic guard agenda
  obtain ⟨⟨trace, accounts⟩, ordered⟩ := accounts_play (α := α) whole now moves
  refine ⟨trace, accounts.breaker, accounts.isTrace, accounts.direct,
    fun id => ⟨accounts.fate id, accounts.result?_eq id⟩, fun item => ordered.le_due, ?_,
    accounts.total, accounts.rejections⟩
  intro idle id known
  have fate := accounts.fate id
  rw [show traffic.run.loop.agenda = 0 from idle, List.getElem?_eq_getElem known] at fate
  rw [accounts.result?_eq]
  exact fate.isSome_result

/-- A call that is cut off, one that ends exactly in time, one with a fault that does not count, and
one that is turned down, with three direct requests. -/
theorem accounted_once_overlapping :
    let fresh := Breaker.start "db"
      { callTimeout := .ofMillis 10, filter := { ignored := [.notFound] } } 0
    let call (latency : Nat) (outcome : Except Fault Nat) : GuardedCall Nat :=
      ⟨.ofMillis latency, outcome⟩
    let moves : List (Move Nat) :=
      [.call (call 12 (.ok 1)), .spawn (call 10 (.ok 2)), .loop .turn, .loop (.jump 1),
        .call (call 2 (.error (.of .notFound "gone"))), .loop (.jump 3), .loop .turn,
        .request .success, .request .forceOpen, .call (call 1 (.ok 4)), .request .acquire,
        .loop (.jump 10), .loop .turn, .loop .turn]
    let traffic := (opening fresh 0).play moves
    fresh.config.callTimeout = .ofMillis 10 ∧ traffic.run.loop.agenda = 0 ∧
      (∀ id < 4, (traffic.run.state.result? id).isSome = true) ∧
      traffic.run.state.breaker.totals.calls = 1 + 2 ∧
      traffic.run.state.breaker.totals.rejections = 1 + 1 := by
  intro fresh call moves traffic
  have whole : fresh.config.callTimeout = .ofMillis 10 := rfl
  have idle : traffic.run.loop.agenda = 0 := Multiset.card_eq_zero.mp (by decide +kernel)
  have four : 4 = traffic.calls.length := by decide +kernel
  obtain ⟨trace, -, -, -, -, -, idled, total, rejections⟩ := accounted_once fresh 10 whole 0 moves
  refine ⟨whole, idle, ?_, ?_, ?_⟩
  · rw [four]
    exact idled idle
  · rw [total]
    decide +kernel
  · rw [rejections]
    decide +kernel

end Traffic

end Resilience
