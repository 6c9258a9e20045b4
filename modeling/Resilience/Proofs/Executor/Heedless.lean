import Resilience.Executor.Attempt

/-!
# Attempts do not look at what is shown

Handles show the statuses of units, and the journal records everything that happens. Both are there
for others: an attempt looks at neither. In worlds that differ only in their statuses and journals
it comes to the same, and it adds the same entries to the journal.

## Main definitions

* `World.retold` — a world with other statuses and another journal
* `World.Heedless` — a change that looks at neither
* `World.unpublished`, `World.Alike` — a world without what is shown on handles, and worlds that
  differ only in that

## Main statements

* `Executor.heedless_beginAttempt`, `Executor.heedless_endAttempt` — both halves of an attempt
* `World.Alike.change_eq` — heedless changes keep worlds alike
-/

namespace Resilience

namespace World

/-- A world with other statuses and another journal. -/
def retold (world : World) (statuses : Table Nat Status) (journal : Array JournalEntry) : World :=
  { world with statuses, journal }

/-- A change that looks neither at the statuses nor at the journal. It leaves the statuses as they
are and adds to the journal. -/
def Heedless {α : Type} (change : World → α × World) : Prop :=
  ∀ world, ∃ new : Array JournalEntry, ∀ statuses journal,
    change (world.retold statuses journal) =
      ((change world).1, (change world).2.retold statuses (journal ++ new))

namespace Heedless

variable {α β : Type}

/-- A change that adds nothing to the journal. -/
theorem of_silent (change : World → α × World)
    (same : ∀ (world : World) statuses journal, change (world.retold statuses journal) =
      ((change world).1, (change world).2.retold statuses journal)) : Heedless change := by
  refine fun world => ⟨#[], fun statuses journal => ?_⟩
  rw [Array.append_empty]
  exact same world statuses journal

theorem pure (answer : α) : Heedless fun world => (answer, world) :=
  of_silent _ fun _ _ _ => rfl

theorem record (now : Nat) (occurrence : Occurrence) :
    Heedless fun world => ((), world.record now occurrence) := by
  refine fun world => ⟨#[⟨now, occurrence⟩], fun statuses journal => ?_⟩
  rw [← Array.push_eq_append]
  rfl

/-- One change after another. -/
theorem bind {first : World → α × World} (heeds : Heedless first)
    (second : α → World → β × World) (goesOn : ∀ answer, Heedless (second answer)) :
    Heedless fun world => second (first world).1 (first world).2 := by
  intro world
  obtain ⟨new, same⟩ := heeds world
  obtain ⟨more, still⟩ := goesOn (first world).1 (first world).2
  refine ⟨new ++ more, fun statuses journal => ?_⟩
  dsimp only
  rw [same, ← Array.append_assoc]
  exact still statuses (journal ++ new)

/-- A change with its answer presented in another way. -/
theorem map {change : World → α × World} (heeds : Heedless change) (present : α → β) :
    Heedless fun world => (present (change world).1, (change world).2) :=
  heeds.bind (fun answer world => (present answer, world)) fun answer => .pure (present answer)

/-- A change that depends on something besides statuses and journal. -/
theorem depending (part : World → β)
    (same : ∀ (world : World) statuses journal, part (world.retold statuses journal) = part world)
    (change : β → World → α × World) (each : ∀ found, Heedless (change found)) :
    Heedless fun world => change (part world) world := by
  intro world
  obtain ⟨new, still⟩ := each (part world) world
  refine ⟨new, fun statuses journal => ?_⟩
  dsimp only
  rw [same]
  exact still statuses journal

/-- Several changes, one for each item. -/
theorem forEach {change : World → β → World}
    (each : ∀ item, Heedless fun world => ((), change world item)) (items : List β) :
    Heedless fun world => ((), items.foldl change world) := by
  induction items with
  | nil => exact pure ()
  | cons item items rest => exact (each item).bind _ fun _ => rest

end Heedless

/-! ## What attempts are made of

Where a function goes on by an answer, what follows the answer has a lemma of its own. -/

section

variable (now : Nat)

theorem heedless_setBreaker (id : Nat) (change : Breaker.Change) :
    Heedless fun world => ((), world.setBreaker now id change) := by
  unfold setBreaker
  cases change.transition with
  | none => exact .of_silent _ fun _ _ _ => rfl
  | some transition =>
    have kept : Heedless fun world =>
      ((), { world with breakers := world.breakers.insert id change.breaker }) :=
        .of_silent _ fun _ _ _ => rfl
    exact kept.bind _ fun _ => .record now (.audited (.circuitChanged transition))

theorem heedless_changeBreaker_found (id : Nat) (operation : Breaker → Breaker.Change)
    (found : Option Breaker) :
    Heedless fun world => ((), match found with
      | none => world
      | some breaker => world.setBreaker now id (operation breaker)) := by
  cases found with
  | none => exact .pure ()
  | some breaker => exact heedless_setBreaker now id (operation breaker)

theorem heedless_changeBreaker (id : Option Nat) (operation : Breaker → Breaker.Change) :
    Heedless fun world => ((), world.changeBreaker now id operation) := by
  cases id with
  | none => exact .pure ()
  | some id =>
    exact .depending (fun world => world.breakers.find? id) (fun _ _ _ => rfl) _
      (heedless_changeBreaker_found now id operation)

theorem heedless_acquire_found (id : Nat) (found : Option Breaker) :
    Heedless fun world => match found with
      | none => (.ok (), world)
      | some breaker =>
        ((breaker.acquire (Instant.ofMillis now)).1.mapError breaker.denied,
          world.setBreaker now id (breaker.acquire (Instant.ofMillis now)).2) := by
  cases found with
  | none => exact .pure (Except.ok ())
  | some breaker =>
    exact (heedless_setBreaker now id _).map fun _ =>
      (breaker.acquire (Instant.ofMillis now)).1.mapError breaker.denied

theorem heedless_acquire (id : Option Nat) : Heedless (acquire · now id) := by
  cases id with
  | none => exact .pure (Except.ok ())
  | some id =>
    exact .depending (fun world => world.breakers.find? id) (fun _ _ _ => rfl) _
      (heedless_acquire_found now id)

theorem heedless_askCounter {α : Type} (request : Ledger → Served α) :
    Heedless (askCounter · now request) := by
  unfold askCounter
  refine .depending (fun world => request world.ledger) (fun _ _ _ => rfl)
    (fun served world => (served.answer, served.fallbacks.foldl
      (fun world fallback => world.audit now (.counterFellBack fallback))
      { world with ledger := served.ledger })) fun served => ?_
  have kept : Heedless fun world => ((), { world with ledger := served.ledger }) :=
    .of_silent _ fun _ _ _ => rfl
  have reported := Heedless.forEach (fun fallback => .record now
    (.audited (.counterFellBack fallback))) served.fallbacks
  exact kept.bind _ fun _ => reported.map fun _ => served.answer

theorem heedless_askSource {α : Type} (id : Nat) (kind : SourceRequest) (unit : WorkUnit)
    (request : Source → Except Failure α × Source) :
    Heedless (askSource · now id kind unit request) := by
  unfold askSource
  refine .depending (fun world => request ((world.sources.find? id).getD default))
    (fun _ _ _ => rfl) (fun reply world =>
      (reply.1, { world with sources := world.sources.insert id reply.2 }.record now
        (.asked id kind unit))) fun reply => ?_
  have kept : Heedless fun world =>
    ((), { world with sources := world.sources.insert id reply.2 }) :=
      .of_silent _ fun _ _ _ => rfl
  exact kept.bind _ fun _ => (Heedless.record now (.asked id kind unit)).map fun _ => reply.1

theorem heedless_compensate (compensation : Compensation) (setback : Setback) :
    Heedless (compensate · now compensation setback) := by
  unfold compensate
  refine .depending (fun world => compensation.run setback world.sources) (fun _ _ _ => rfl)
    (fun outcome world => (outcome.verdict, outcome.notes.foldl _
      { world with sources := outcome.sources })) fun outcome => ?_
  have kept : Heedless fun world => ((), { world with sources := outcome.sources }) :=
    .of_silent _ fun _ _ _ => rfl
  refine kept.bind _ fun _ => (Heedless.forEach (fun note => ?_) outcome.notes).map fun _ =>
    outcome.verdict
  cases note with
  | ran action setback => exact .record now (.compensated action setback)
  | partFailed name setback failure =>
    exact .record now (.audited (.compensationFailed setback name failure))

end

end World

namespace Executor

open World (Heedless)

variable (executor : Executor) (unit : WorkUnit) (now : Nat)

theorem heedless_resetCount : Heedless fun world => ((), executor.resetCount unit now world) :=
  (World.heedless_askCounter now _).map fun _ => ()

theorem heedless_abandon (attempts : Nat) (reason : String) :
    Heedless (executor.abandon unit attempts reason now) :=
  (executor.heedless_resetCount unit now).bind _ fun _ =>
    (Heedless.record now (.audited (.unitAbandoned unit attempts reason))).map fun _ =>
      Completion.abandoned attempts

theorem heedless_isStillPending_answered (answer : Except Failure Bool) :
    Heedless fun world => match answer with
      | .ok pending => (pending, world)
      | .error _ => (true, world) := by
  cases answer with
  | ok pending => exact .pure pending
  | error _ => exact .pure true

theorem heedless_isStillPending : Heedless (executor.isStillPending unit now) := by
  unfold isStillPending
  cases executor.source with
  | none => exact .pure true
  | some id =>
    have asked := World.heedless_askSource now id .isPending unit fun source =>
      (source.isPending unit.id, source)
    exact asked.bind _ heedless_isStillPending_answered

theorem heedless_acknowledge : Heedless fun world => ((), executor.acknowledge unit now world) := by
  unfold acknowledge
  cases executor.source with
  | none => exact .pure ()
  | some id =>
    exact (World.heedless_askSource now id .acknowledge unit _).map fun _ => ()

theorem heedless_invoke_asked (admission : Except Failure Unit) :
    Heedless fun world => match admission with
      | .error failure => (Begun.ended (.error failure), world)
      | .ok () =>
        let (response, operation) := (world.operation executor.operation).invoke unit now
        (Begun.running response, (world.setOperation executor.operation operation).record now
          (.invoked executor.operation unit)) := by
  cases admission with
  | error failure => exact .pure _
  | ok _ =>
    refine .depending (fun world => (world.operation executor.operation).invoke unit now)
      (fun _ _ _ => rfl) (fun call world => (Begun.running call.1,
        (world.setOperation executor.operation call.2).record now
          (.invoked executor.operation unit))) fun call => ?_
    have kept : Heedless fun world => ((), world.setOperation executor.operation call.2) :=
      .of_silent _ fun _ _ _ => rfl
    exact kept.bind _ fun _ => (Heedless.record now (.invoked executor.operation unit)).map
      fun _ => Begun.running call.1

theorem heedless_invoke : Heedless (executor.invoke unit now) :=
  (World.heedless_acquire now executor.breaker).bind _
    (executor.heedless_invoke_asked unit now)

theorem heedless_beginAttempt_asked (prior : Nat) (pending : Bool) :
    Heedless fun world =>
      if pending then executor.invoke unit now world
      else
        let (completion, world) := executor.abandon unit prior "unit left its source" now world
        (.ended (.ok completion), world) := by
  cases pending with
  | true => exact executor.heedless_invoke unit now
  | false =>
    exact (executor.heedless_abandon unit now prior "unit left its source").map fun completion =>
      Begun.ended (.ok completion)

/-- The first half of an attempt. -/
theorem heedless_beginAttempt (prior : Nat) : Heedless (executor.beginAttempt unit prior now) := by
  unfold beginAttempt
  split
  · exact executor.heedless_invoke unit now
  · exact (executor.heedless_isStillPending unit now).bind _
      (executor.heedless_beginAttempt_asked unit now prior)

theorem heedless_complete (attempts : Nat) : Heedless (executor.complete unit attempts now) :=
  (World.heedless_changeBreaker now _ _).bind _ fun _ =>
    (executor.heedless_resetCount unit now).bind _ fun _ =>
      (executor.heedless_acknowledge unit now).map fun _ => Completion.completed attempts

theorem heedless_giveUp_compensated (setback : Setback) (attempts : Nat)
    (compensation : Compensation) (verdict : Except Failure Verdict) :
    Heedless fun world => match verdict with
      | .ok .recovered => (Except.ok (Completion.recovered attempts), world)
      | .ok .propagate =>
        (Except.error (Failure.exhausted unit.action attempts setback.fault), world)
      | .error failure =>
        (Except.error (Failure.exhausted unit.action attempts setback.fault), world.audit now
          (.compensationFailed setback compensation.name failure)) := by
  rcases verdict with failure | (_ | _)
  · exact (Heedless.record now
      (.audited (.compensationFailed setback compensation.name failure))).map fun _ =>
        Except.error (Failure.exhausted unit.action attempts setback.fault)
  · exact .pure _
  · exact .pure _

theorem heedless_giveUp (setback : Setback) (attempts : Nat) (compensation : Option Compensation) :
    Heedless (executor.giveUp unit setback attempts compensation now) := by
  have reported := (executor.heedless_resetCount unit now).bind _ fun _ =>
    Heedless.record now (.audited (.gaveUp setback (compensation.map (·.name))))
  cases compensation with
  | none =>
    exact reported.map fun _ => Except.error (Failure.exhausted unit.action attempts setback.fault)
  | some compensation =>
    exact reported.bind _ fun _ => (World.heedless_compensate now compensation setback).bind _
      (heedless_giveUp_compensated unit now setback attempts compensation)

theorem heedless_countAttempt_answered (prior : Nat) (answer : Except Failure Nat) :
    Heedless fun world => match answer with
      | .ok count => (min count greatestAttempt, world)
      | .error _ => (nextAttempt prior, world) := by
  cases answer with
  | ok count => exact .pure _
  | error _ => exact .pure _

theorem heedless_countAttempt (prior : Nat) :
    Heedless (executor.countAttempt unit prior now) :=
  (World.heedless_askCounter now _).bind _ (heedless_countAttempt_answered prior)

theorem heedless_handle_decided (setback : Setback) (attempt : Nat) (decision : Decision) :
    Heedless fun world => match decision with
      | .retry delay =>
        (Sequel.retry attempt delay, world.audit now (.retryScheduled setback delay))
      | .giveUp compensation =>
        let (result, world) := executor.giveUp unit setback attempt compensation now world
        (Sequel.done result, world) := by
  cases decision with
  | retry delay =>
    exact (Heedless.record now (.audited (.retryScheduled setback delay))).map
      fun _ => Sequel.retry attempt delay
  | giveUp compensation =>
    exact (executor.heedless_giveUp unit now setback attempt compensation).map Sequel.done

theorem heedless_handle (fault : Fault) (prior : Nat) :
    Heedless (executor.handle unit fault prior now) := by
  have drawn (entropy : Entropy) : Heedless fun world => ((), { world with entropy }) :=
    .of_silent _ fun _ _ _ => rfl
  have judged (attempt : Nat) (setback : Setback) :=
    Heedless.depending (fun world => executor.handler.judge setback world.entropy)
      (fun _ _ _ => rfl) _ fun ruling => (drawn ruling.2).bind _ fun _ =>
        executor.heedless_handle_decided unit now setback attempt ruling.1
  exact (World.heedless_changeBreaker now _ _).bind _ fun _ =>
    (executor.heedless_countAttempt unit now prior).bind _ fun attempt =>
      judged attempt (.of unit fault attempt executor.handler.policy.maxAttempts.toNat
        (Instant.ofMillis now))

theorem heedless_endAttempt_concluded (prior : Nat) (concluded : Except Fault Unit) :
    Heedless fun world => match concluded with
      | .ok () =>
        let (completion, world) := executor.complete unit (nextAttempt prior) now world
        (Sequel.done (.ok completion), world)
      | .error fault =>
        if 0 < prior ∧ fault.isKind .notFound then
          let world :=
            world.changeBreaker now executor.breaker (·.recordSuccess (Instant.ofMillis now))
          let (completion, world) :=
            executor.abandon unit (nextAttempt prior) "unit not found" now world
          (Sequel.done (.ok completion), world)
        else executor.handle unit fault prior now world := by
  cases concluded with
  | ok _ =>
    exact (executor.heedless_complete unit now (nextAttempt prior)).map fun completion =>
      Sequel.done (.ok completion)
  | error fault =>
    dsimp only
    split
    · exact (World.heedless_changeBreaker now _ _).bind _ fun _ =>
        (executor.heedless_abandon unit now (nextAttempt prior) "unit not found").map
          fun completion => Sequel.done (.ok completion)
    · exact executor.heedless_handle unit now fault prior

/-- The second half of an attempt. -/
theorem heedless_endAttempt (prior : Nat) (outcome : Except Fault Unit) :
    Heedless (executor.endAttempt unit prior outcome now) :=
  .depending (fun world => (world.operation executor.operation).conclude unit outcome)
    (fun _ _ _ => rfl) _ (executor.heedless_endAttempt_concluded unit now prior)

end Executor

/-! ## Worlds that differ in what is shown -/

/-- Whether a handle showed a new status. -/
def Occurrence.isShown : Occurrence → Bool
  | published .. => true
  | audited _ | invoked .. | asked .. | compensated .. => false

namespace World

/-- A world without what is shown on handles. -/
def unpublished (world : World) : World :=
  world.retold {} (world.journal.filter fun entry => !entry.occurrence.isShown)

/-- Worlds that differ in nothing but what is shown on handles. -/
def Alike (first second : World) : Prop := first.unpublished = second.unpublished

variable {α : Type} {change : World → α × World} {first second world : World}

/-- What a heedless change does to the statuses and the journal. -/
theorem Heedless.snd_eq (heeds : Heedless change) (world : World) :
    ∃ new, (change world).2 = (change world).2.retold world.statuses (world.journal ++ new) := by
  obtain ⟨new, same⟩ := heeds world
  exact ⟨new, congrArg Prod.snd (same world.statuses world.journal)⟩

theorem Heedless.statuses (heeds : Heedless change) (world : World) :
    (change world).2.statuses = world.statuses := by
  obtain ⟨new, same⟩ := heeds.snd_eq world
  rw [same]
  rfl

/-- Nothing is ever removed from the journal. -/
theorem Heedless.journal_grows (heeds : Heedless change) (world : World) :
    world.unpublished.journal.toList <+: (change world).2.unpublished.journal.toList := by
  obtain ⟨new, same⟩ := heeds.snd_eq world
  refine ⟨(new.filter fun entry => !entry.occurrence.isShown).toList, ?_⟩
  rw [same]
  simp [unpublished, retold]

theorem alike_publish (world : World) (now handle : Nat) (status : Status) :
    (world.publish now handle status).Alike world := by
  simp [Alike, publish, record, unpublished, retold, Occurrence.isShown]

namespace Alike

theorem refl (world : World) : world.Alike world := rfl

theorem trans {third : World} (here : first.Alike second) (there : second.Alike third) :
    first.Alike third := Eq.trans here there

theorem symm (alike : first.Alike second) : second.Alike first := Eq.symm alike

theorem operations (alike : first.Alike second) : first.operations = second.operations := by
  have same : first.unpublished.operations = second.unpublished.operations :=
    congrArg World.operations alike
  exact same

theorem eq_retold (alike : first.Alike second) :
    second = first.retold second.statuses second.journal := by
  obtain ⟨⟩ := first
  obtain ⟨⟩ := second
  simp only [Alike, unpublished, retold, World.mk.injEq] at alike
  obtain ⟨rfl, rfl, rfl, rfl, rfl, rfl, -⟩ := alike
  rfl

/-- Worlds with the same holdings and the same entries besides those of handles. -/
theorem retold_append (alike : first.Alike second) (world : World) (new : Array JournalEntry) :
    (world.retold first.statuses (first.journal ++ new)).Alike
      (world.retold second.statuses (second.journal ++ new)) := by
  have entries : (first.journal.filter fun entry => !entry.occurrence.isShown) =
      second.journal.filter fun entry => !entry.occurrence.isShown := congrArg World.journal alike
  simp [Alike, unpublished, retold, entries]

/-- Heedless changes come to the same in worlds that are alike, and keep them alike. -/
theorem change_eq (alike : first.Alike second) (heeds : Heedless change) :
    ∃ answer first' second', change first = (answer, first') ∧ change second = (answer, second') ∧
      first'.Alike second' ∧ first'.statuses = first.statuses := by
  obtain ⟨new, same⟩ := heeds first
  have there := same second.statuses second.journal
  have here : change first = _ := same first.statuses first.journal
  rw [← alike.eq_retold] at there
  exact ⟨_, _, _, here, there, alike.retold_append _ new, rfl⟩

theorem elapse (alike : first.Alike second) (before later : Nat) :
    (first.elapse before later).Alike (second.elapse before later) := by
  have silent : Heedless fun world => ((), world.elapse before later) :=
    .of_silent _ fun _ _ _ => rfl
  obtain ⟨_, _, _, here, there, still, -⟩ := alike.change_eq silent
  cases here
  cases there
  exact still

theorem publish (alike : first.Alike second) (now handle : Nat) (status : Status) :
    (first.publish now handle status).Alike second :=
  (alike_publish first now handle status).trans alike

end Alike

end World

end Resilience
