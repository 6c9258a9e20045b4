import Resilience.Proofs.Executor.Endings

/-!
# Calls as sequences of moves

The calls a program makes in the foreground are sequences of moves in a scene, with the moves of the
loop that happen while the call waits: executing a unit is submitting it and waiting, and processing
it is entering, waiting for the operation and leaving. So all that is true of every sequence of moves
is true of programs made of these calls.

## Main statements

* `Scene.ordered_after` — moves keep the timers in order
* `Scene.execute_eq_play`, `Scene.process_eq_play`, `Scene.advance_eq_play` — calls are sequences of
  moves
-/

namespace Resilience

namespace Scene

variable {scene : Scene}

theorem play_cons (scene : Scene) (move : Move) (moves : List Move) :
    scene.play (move :: moves) = (scene.after move).play moves := rfl

/-- What every move keeps is kept by several. -/
theorem play_preserves {holds : Scene → Prop} {allowed : Move → Prop}
    (step : ∀ {scene move}, holds scene → allowed move → holds (scene.after move))
    (here : holds scene) {moves : List Move} (all : ∀ move ∈ moves, allowed move) :
    holds (scene.play moves) := by
  induction moves generalizing scene with
  | nil => exact here
  | cons move moves ih =>
    exact ih (step here (all move List.mem_cons_self))
      fun other member => all other (List.mem_cons_of_mem _ member)

theorem after_leave_none {index : Nat} (none : scene.visits[index]? = none) :
    scene.after (.leave index) = scene := by
  rw [after, none]

/-- The call that was entered last is left. -/
theorem after_leave_last {visits : List Visit} {visit : Visit}
    (last : scene.visits = visits ++ [visit]) :
    scene.after (.leave visits.length) = { scene with visits }.concluding visit := by
  simp only [after]
  rw [last, List.getElem?_concat_length, List.eraseIdx_append_of_length_le (Nat.le_refl _),
    Nat.sub_self]
  dsimp only [List.eraseIdx]
  rw [List.append_nil]

theorem play_loop (scene : Scene) (moves : List LoopMove) :
    scene.play (moves.map .loop) = { scene with run := World.reactor.play scene.run moves } := by
  induction moves generalizing scene with
  | nil => rfl
  | cons move moves ih => exact ih _

/-- The end of a call keeps the timers in order. -/
theorem Concludes.ordered {visit : Visit} {next : Scene} (concludes : scene.Concludes visit next)
    (ordered : scene.run.loop.Ordered) : next.run.loop.Ordered := by
  cases concludes with
  | done => exact ordered
  | @retry attempt delay world lifecycle =>
    obtain ⟨_, _, _, _, _, _, keeps, _⟩ := lifecycle.postpone_passes
      (lifecycle.publish .pending { scene.run with state := world }) attempt delay
    exact keeps ordered

/-- Moves keep the timers in order. -/
theorem ordered_after (ordered : scene.run.loop.Ordered) (move : Move) :
    (scene.after move).run.loop.Ordered := by
  have comes := scene.comes move
  generalize scene.after move = next at comes ⊢
  cases comes with
  | @looped move => exact World.reactor_punctual.play ordered [move]
  | refused | answered | entered | missing | intervened => exact ordered
  | accepted => exact ordered.spawn _
  | left found concludes => exact concludes.ordered ordered
  | @shut scheduler =>
    by_cases shut : (scene.run.state.scheduler scheduler).isShutDown = true
    · rw [World.loop_shutDown_of_shut shut]
      exact ordered
    · rw [World.loop_shutDown_of_open (Bool.eq_false_iff.2 shut)]
      exact ordered.abort _

theorem ordered_play (ordered : scene.run.loop.Ordered) (moves : List Move) :
    (scene.play moves).run.loop.Ordered :=
  @play_preserves scene (·.run.loop.Ordered) (fun _ => True)
    (fun ordered _ => ordered_after ordered _) ordered moves fun _ _ => trivial

theorem ordered_opening (world : World) (now : Nat) : (opening world now).run.loop.Ordered :=
  ⟨.nil, fun _ member => absurd member List.not_mem_nil⟩

/-! ## Calls -/

/-- Letting time pass is a sequence of moves of the loop. -/
theorem advance_eq_play (ordered : scene.run.loop.Ordered) (millis turns : Nat) :
    ∃ moves : List LoopMove, scene.play (moves.map .loop) =
      { scene with run := World.reactor.advance millis turns scene.run } := by
  obtain ⟨moves, same⟩ := Reactor.advance_eq_play World.reactor_punctual millis turns ordered
  exact ⟨moves, by rw [play_loop, same]⟩

/-- Letting tasks take turns is a sequence of moves of the loop. -/
theorem settle_eq_play (scene : Scene) (turns : Nat) :
    ∃ moves : List LoopMove, scene.play (moves.map .loop) =
      { scene with run := World.reactor.settle turns scene.run } := by
  obtain ⟨moves, same⟩ := Reactor.settle_eq_play World.reactor turns scene.run
  exact ⟨moves, by rw [play_loop, same]⟩

theorem wait_snd (turns handle : Nat) (run : Universe) :
    (World.wait turns handle run).2 =
      World.reactor.runUntil (World.isSettled handle) turns run := by
  rw [World.wait]

/-- Waiting on a handle is a sequence of moves of the loop. -/
theorem wait_eq_play (ordered : scene.run.loop.Ordered) (turns handle : Nat) :
    ∃ moves : List LoopMove, scene.play (moves.map .loop) =
      { scene with run := (World.wait turns handle scene.run).2 } := by
  obtain ⟨moves, same⟩ := Reactor.runUntil_eq_play World.reactor_punctual
    (World.isSettled handle) turns ordered
  exact ⟨moves, by rw [play_loop, wait_snd, same]⟩

/-- Executing a unit is submitting it and waiting. If the turns suffice for the wait, the scene gives
the result that is returned. -/
theorem execute_eq_play (ordered : scene.run.loop.Ordered) (executor : Executor) (turns : Nat)
    (unit : WorkUnit) :
    ∃ moves : List LoopMove,
      let later := scene.play (.submit executor unit :: moves.map .loop)
      later.run = (executor.execute turns unit scene.run).2 ∧
        (World.isSettled scene.run.state.freshHandle later.run = true →
          later.Gives unit (executor.execute turns unit scene.run).1) := by
  by_cases shut : (scene.run.state.scheduler executor.scheduler).isShutDown = true
  · refine ⟨[], ?_⟩
    rw [List.map_nil, play_cons, after_submit_of_shut shut, Executor.execute,
      Executor.submit_of_shut shut]
    exact ⟨rfl, fun _ => .inl (List.mem_append_right _ (List.mem_singleton_self _))⟩
  · have accepts := Bool.eq_false_iff.2 shut
    have submitted := ordered_after ordered (.submit executor unit)
    rw [after_submit_of_open accepts] at submitted
    obtain ⟨moves, waited⟩ := wait_eq_play submitted turns scene.run.state.freshHandle
    refine ⟨moves, ?_⟩
    rw [play_cons, after_submit_of_open accepts, waited, Executor.execute,
      Executor.submit_of_open accepts]
    exact ⟨rfl, fun settled => .inr ⟨⟨executor, unit, scene.run.state.freshHandle⟩,
      List.mem_append_right _ (List.mem_singleton_self _), rfl, settled, rfl⟩⟩

/-- Processing a unit is entering, waiting for the operation and leaving. -/
theorem process_eq_play (ordered : scene.run.loop.Ordered) (executor : Executor) (turns : Nat)
    (unit : WorkUnit) :
    ∃ moves : List LoopMove,
      let later := scene.play
        (.enter executor unit :: (moves.map .loop ++ [.leave scene.visits.length]))
      later.run = (executor.process turns unit scene.run).2 ∧
        match (executor.process turns unit scene.run).1 with
        | .finished result => (unit, result) ∈ later.returned
        | .retryScheduled _ _ handle => ⟨executor, unit, handle⟩ ∈ later.handles := by
  have entered := ordered_after ordered (.enter executor unit)
  rw [Executor.process, Executor.attemptHere]
  rcases begun : executor.beginAttempt unit 0 scene.run.loop.now scene.run.state with
    ⟨result | response, world⟩
  -- without a call there is no visit, and leaving it does nothing
  · have enter : scene.after (.enter executor unit) =
        scene.returning unit result { scene.run with state := world } := by
      rw [after, begun]
    have left : (scene.returning unit result { scene.run with state := world }).after
        (.leave scene.visits.length) =
          scene.returning unit result { scene.run with state := world } :=
      after_leave_none (List.getElem?_eq_none (Nat.le_refl _))
    refine ⟨[], ?_⟩
    rw [List.map_nil, List.nil_append, play_cons, enter, play_cons, left]
    exact ⟨rfl, List.mem_append_right _ (List.mem_singleton_self _)⟩
  · have enter : scene.after (.enter executor unit) =
        { scene with
          run := { scene.run with state := world }
          visits := scene.visits ++ [⟨executor, unit, response.outcome⟩] } := by
      rw [after, begun]
    rw [enter] at entered
    obtain ⟨moves, paused⟩ := Reactor.pause_eq_play World.reactor_punctual response.latency turns
      entered
    dsimp only at paused
    refine ⟨moves, ?_⟩
    rw [play_cons, enter, play_append, play_loop]
    dsimp only
    rw [paused]
    generalize World.reactor.play { scene.run with state := world } moves = run
    rw [play_cons, after_leave_last rfl, play, List.foldl_nil]
    simp only [concluding]
    rcases executor.endAttempt unit 0 response.outcome run.loop.now run.state with
      ⟨result | ⟨attempt, delay⟩, last⟩
    · exact ⟨rfl, List.mem_append_right _ (List.mem_singleton_self _)⟩
    · exact ⟨rfl, List.mem_append_right _ (List.mem_singleton_self _)⟩

end Scene

end Resilience
