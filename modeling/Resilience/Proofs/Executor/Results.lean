import Resilience.Proofs.Executor.Counterparts
import Resilience.Proofs.Executor.Telling

/-!
# Internal failures stay internal

A counter, a source or a compensation may fail at any time. Those who ask for a result never learn
of it: they are told of a completion, of the fault which the last invocation has returned, of a
breaker that did not admit an attempt, or of a shutdown. Whether a compensation fails or lets the
failure propagate makes no difference to any result at all.

## Main definitions

* `Scene.Discloses` — what those are told who wait for a handle
* `Scene.Discreet` — what all callers are told
* `Scene.SameResults` — two scenes in which everybody is told the same

## Main statements

* `Scene.discreet_play` — callers are told nothing else, and compensations that fail change nothing
-/

namespace Resilience

namespace Scene

/-- What those are told who wait for a handle, from the move on that gives it out. -/
structure Discloses (scene : Scene) (start : Move) (lifecycle : Lifecycle) : Prop where
  /-- One invocation is made after the other. -/
  oneByOne : ∀ late, ∃ underWay, Dealing.OneByOne lifecycle.unit
    (scene.dealings lifecycle.handle (start :: late)) underWay
  /-- Whoever looks now and then is told what can be told after all dealings. -/
  awaits : ∀ late looks result,
    (scene.play (start :: late)).awaited lifecycle.handle looks = some result →
      Told lifecycle.unit (scene.dealings lifecycle.handle (start :: late ++ looks.flatten)) result
  /-- Whoever waits in the foreground is told what can be told after the dealings meanwhile. -/
  waits : ∀ late turns,
    let later := scene.play (start :: late)
    let waited := World.wait turns lifecycle.handle later.run
    ∃ moves : List LoopMove, later.play (moves.map .loop) = { later with run := waited.2 } ∧
      Told lifecycle.unit (scene.dealings lifecycle.handle (start :: late ++ moves.map .loop))
        waited.1

/-- What callers are told. -/
structure Discreet (scene : Scene) : Prop where
  handled : ∀ start lifecycle, (scene.after start).handles = scene.handles ++ [lifecycle] →
    scene.Discloses start lifecycle
  executed : ∀ (executor : Executor) turns unit, ∃ moves : List LoopMove,
    let course := Move.submit executor unit :: moves.map .loop
    (scene.play course).run = (executor.execute turns unit scene.run).2 ∧
      Told unit (scene.dealings scene.run.state.freshHandle course)
        (executor.execute turns unit scene.run).1
  /-- A move returns a result to one caller in the foreground at most. -/
  returned : ∀ move, ∃ entry : Option (WorkUnit × Except Failure Completion),
    (scene.after move).returned = scene.returned ++ entry.toList ∧
      ∀ given ∈ entry, Told given.1 (scene.dealingsHere move) given.2
  processed : ∀ (executor : Executor) turns unit result,
    (executor.process turns unit scene.run).1 = .finished result →
      Told unit (executor.dealingsHere turns unit scene.run) result
  /-- Compensations that recover from the same failed attempts give the same results, even if one of
  them fails where the other lets the failure propagate, and whatever they do besides. -/
  settled : ∀ (executor : Executor) (first second : Compensation),
    (∀ setback, (first.run setback scene.run.state.sources).verdict = .ok .recovered ↔
      (second.run setback scene.run.state.sources).verdict = .ok .recovered) →
    ∀ unit prior outcome now,
      ((executor.compensatedBy first).endAttempt unit prior outcome now scene.run.state).1 =
        ((executor.compensatedBy second).endAttempt unit prior outcome now scene.run.state).1

/-- Two scenes in which everybody gets the same. -/
structure SameResults (first second : Scene) : Prop where
  returned : first.returned = second.returned
  awaited : ∀ handle looks others, looks.Forall₂ (List.Forall₂ Move.Likewise) others →
    first.awaited handle looks = second.awaited handle others
  waited : ∀ turns handle,
    (World.wait turns handle first.run).1 = (World.wait turns handle second.run).1
  executed : ∀ executor counterpart : Executor, executor.Likewise counterpart → ∀ turns unit,
    (executor.execute turns unit first.run).1 = (counterpart.execute turns unit second.run).1
  processed : ∀ executor counterpart : Executor, executor.Likewise counterpart → ∀ turns unit,
    (executor.process turns unit first.run).1 = (counterpart.process turns unit second.run).1

variable {scene : Scene}

/-- A handle discloses nothing else about its lifecycle. -/
theorem Tidy.discloses (tidy : scene.Tidy) (ordered : scene.run.loop.Ordered)
    (shows : ∀ moves, (scene.play moves).run.state.ShowsLast) {start : Move}
    {lifecycle : Lifecycle}
    (given : (scene.after start).handles = scene.handles ++ [lifecycle]) :
    scene.Discloses start lifecycle where
  oneByOne late := by
    obtain ⟨underWay, oneByOne, -⟩ := (tidy.dealt_play (shows []) given late).oneByOne
    exact ⟨underWay, oneByOne⟩
  awaits late looks result gives := by
    obtain ⟨moves, others, same, found⟩ := exists_poll gives
    rw [← play_append, List.cons_append] at found
    obtain ⟨_, _, recorded⟩ := tidy.exists_recorded (shows []) given (late ++ moves)
    have known := (recorded.standing.poll_eq_some_iff (shows _)).1 found
    have dealt := tidy.dealt_play (shows []) given (late ++ looks.flatten)
    refine dealt.told_of_mem ?_
    -- what the lifecycle has ended with by then is what it has ended with at last
    rcases known with ended | ⟨-, -, shutDown⟩
    · refine .inl ?_
      rw [← same, ← List.append_assoc, ← List.cons_append, endings_append, ended]
      exact List.mem_append_left _ (List.mem_singleton_self _)
    · exact .inr shutDown
  waits late turns := by
    obtain ⟨moves, waited⟩ :=
      wait_eq_play (ordered_play ordered (start :: late)) turns lifecycle.handle
    refine ⟨moves, waited, ?_⟩
    have told := tidy.told_resultOf (shows []) given (late ++ moves.map .loop) (shows _)
    rw [← List.cons_append, play_append, waited] at told
    exact told

/-- Whoever has a unit executed is told what can be told. -/
theorem Tidy.told_execute (tidy : scene.Tidy) (ordered : scene.run.loop.Ordered)
    (shows : ∀ moves, (scene.play moves).run.state.ShowsLast) (executor : Executor) (turns : Nat)
    (unit : WorkUnit) :
    ∃ moves : List LoopMove,
      let course := Move.submit executor unit :: moves.map .loop
      (scene.play course).run = (executor.execute turns unit scene.run).2 ∧
        Told unit (scene.dealings scene.run.state.freshHandle course)
          (executor.execute turns unit scene.run).1 := by
  by_cases shut : (scene.run.state.scheduler executor.scheduler).isShutDown = true
  · refine ⟨[], ?_, ?_⟩
    · rw [List.map_nil, play_cons, after_submit_of_shut shut, Executor.execute,
        Executor.submit_of_shut shut]
      rfl
    · rw [Executor.execute, Executor.submit_of_shut shut]
      exact .shutDown
  · have accepts := Bool.eq_false_iff.2 shut
    have submitted := after_submit_of_open accepts unit
    have given : (scene.after (.submit executor unit)).handles =
        scene.handles ++ [⟨executor, unit, scene.run.state.freshHandle⟩] := by
      rw [submitted]
      rfl
    obtain ⟨moves, waited⟩ := wait_eq_play (ordered_after ordered (.submit executor unit)) turns
      scene.run.state.freshHandle
    -- waiting is a way to go on for the scene, so what the handle tells is told here
    have told := tidy.told_resultOf (shows []) given (moves.map .loop) (shows _)
    rw [play_cons, waited, submitted] at told
    rw [Executor.execute, Executor.submit_of_open accepts]
    refine ⟨moves, ?_, told⟩
    rw [play_cons, waited, submitted]
    rfl

theorem showsLast_later (world : World) (now : Nat) (early late : List Move) :
    (((opening world now).play early).play late).run.state.ShowsLast := by
  rw [← play_append]
  exact showsLast_play world now (early ++ late)

/-- Whatever fails around operations, and in whatever order things happen, callers are told nothing
of it. Where a compensation fails, they are told the same as if it let the failure propagate. -/
theorem discreet_play (world : World) (now : Nat) (moves : List Move) :
    ((opening world now).play moves).Discreet ∧
      ∀ others, moves.Forall₂ Move.Likewise others →
        ((opening world now).play moves).SameResults ((opening world now).play others) := by
  have tidy := (tidy_opening world now).play moves
  have ordered := ordered_play (ordered_opening world now) moves
  have shows := showsLast_later world now moves
  refine ⟨?_, fun others all => ?_⟩
  · exact
      { handled := fun start lifecycle given => tidy.discloses ordered shows given
        executed := tidy.told_execute ordered shows
        returned := told_of_returned _
        processed := fun _ _ _ _ => Executor.told_of_finished
        settled := fun executor first second agree unit prior outcome now =>
          executor.fst_endAttempt_compensatedBy agree prior outcome }
  -- nobody has anything to do with a compensation yet
  · have opened : (opening world now).Likewise (opening world now) :=
      ⟨⟨⟨rfl, .nil, .nil⟩, .refl _⟩, .nil, .nil, rfl⟩
    have scenes := opened.play all
    exact
      { returned := scenes.returned
        awaited := fun handle looks others all => scenes.awaited_eq handle all
        waited := World.wait_eq scenes.run
        executed := fun executor counterpart alike => alike.execute_eq scenes.run
        processed := fun executor counterpart alike => alike.process_eq scenes.run }

/-- Nothing around this operation works: the counter refuses its time to live, the source does not
answer and the compensation fails. What those are told who wait is what the operation returned when
it was invoked for the second time, and it is the same if the failure of the compensation is only
noted. -/
theorem discreet_play_failing :
    let down : Operation := .simulated "down" 0 true .timeout .zero
    let silent : Source := { id := "queue", failing := fun _ => true }
    let world : World :=
      { operations := Table.insert {} 0 down, sources := Table.insert {} 0 silent }
    let undo : Compensation := .custom "undo" fun _ => .error (.compensation "undo" "lost")
    let executor : Executor :=
      { source := some 0
        counter := .inProcess "counts" { defaultTtl := some (.ofSeconds (8 * 24 * 60 * 60)) }
        handler :=
          ⟨{ maxAttempts := 2, strategy := .fixed, baseDelay := .ofMillis 20 }, some undo⟩ }
    let lenient := executor.compensatedBy (some (.composite [undo]))
    let moves (executor : Executor) : List Move :=
      [.submit executor ⟨"a", "deliver", none, .empty⟩, .loop .turn, .loop .turn,
        .loop (.jump 20), .loop .turn]
    let scene (executor : Executor) := (opening world 0).play (moves executor)
    let words (result : Except Failure Completion) := match result with
      | .ok _ => "done"
      | .error failure => failure.message
    ((scene executor).awaited 0 []).map words =
        some "action 'deliver' failed after 2 attempt(s): timeout: simulated failure #2" ∧
      (scene executor).Discreet ∧ (scene executor).SameResults (scene lenient) := by
  intro down silent world undo executor lenient moves scene words
  have alike : executor.Likewise lenient := .compensatedBy (.some undo.likewise_composite)
  have all : (moves executor).Forall₂ Move.Likewise (moves lenient) :=
    .cons (.submit alike _) (.cons (.loop _) (.cons (.loop _) (.cons (.loop _)
      (.cons (.loop _) .nil))))
  have discreet := discreet_play world 0 (moves executor)
  exact ⟨by decide +kernel, discreet.1, discreet.2 (moves lenient) all⟩

end Scene

end Resilience
