import Resilience.Proofs.EventLoop.Agenda

/-!
# Runs as sequences of moves

Whatever a caller in the foreground waits for, two things happen meanwhile: the first ready task
takes its turn, or, when none is ready, the clock moves on without passing a timer by. Everything
that holds of each of these moves therefore holds of settling, pausing, advancing and waiting.

## Main definitions

* `LoopMove`, `Reactor.move`, `Reactor.play` — the moves of a run
* `Reactor.Comes` — all that a move can come to
* `Reactor.Punctual` — no task moves the clock or disturbs the order of the timers

## Main statements

* `Reactor.comes` — a move comes to one of these things
* `Reactor.settle_eq_play`, `pause_eq_play`, `advance_eq_play`, `runUntil_eq_play` — the loops of a
  reactor play moves
-/

namespace Resilience

variable {σ τ : Type}

/-- What happens in a run by itself. -/
inductive LoopMove where
  /-- The first ready task takes its turn. -/
  | turn
  /-- The clock moves to a reading, if no task is passed by. -/
  | jump (target : Nat)

namespace Reactor

variable (reactor : Reactor σ τ)

/-- What a move does to a run; a move that is not possible changes nothing. -/
def move (run : Run σ τ) : LoopMove → Run σ τ
  | .turn => (reactor.turn? run).getD run
  | .jump target => if run.loop.canReach target then reactor.moveTo target run else run

/-- All that a move can come to. -/
inductive Comes (run : Run σ τ) : LoopMove → Run σ τ → Prop
  /-- No task is ready, or the clock would pass one by. -/
  | still (move : LoopMove) : Comes run move run
  | turned {next : Run σ τ} (taken : reactor.turn? run = some next) : Comes run .turn next
  | jumped {target : Nat} (reaches : run.loop.canReach target = true) :
    Comes run (.jump target) (reactor.moveTo target run)

theorem comes (run : Run σ τ) (move : LoopMove) :
    reactor.Comes run move (reactor.move run move) := by
  cases move with
  | turn =>
    rw [Reactor.move]
    cases taken : reactor.turn? run with
    | none => exact .still _
    | some next => exact .turned taken
  | jump target =>
    rw [Reactor.move]
    split
    · exact .jumped ‹_›
    · exact .still _

/-- The run after several moves. -/
def play (run : Run σ τ) (moves : List LoopMove) : Run σ τ := moves.foldl reactor.move run

/-- Performing a task takes no time and keeps the timers in order. -/
structure Punctual : Prop where
  now : ∀ task run, (reactor.perform task run).loop.now = run.loop.now
  ordered : ∀ task run, run.loop.Ordered → (reactor.perform task run).loop.Ordered

variable {reactor} {run next : Run σ τ}

theorem turn?_eq_none : reactor.turn? run = none ↔ run.loop.ready = [] := by
  unfold turn?
  split
  · simp [*]
  · rename_i turn rest ready
    cases turn with
    | drop task => simp [ready]
    | run task =>
      dsimp only
      split <;> simp [ready]

/-- A turn takes no time and keeps the timers in order. -/
theorem Punctual.turn? (punctual : reactor.Punctual) (taken : reactor.turn? run = some next) :
    next.loop.now = run.loop.now ∧ (run.loop.Ordered → next.loop.Ordered) := by
  rcases turn?_cases taken with ⟨-, -, now, ordered⟩ | ⟨task, rest, -, -, -, rfl⟩
  · exact ⟨now, ordered⟩
  · exact ⟨punctual.now _ _, fun ordered =>
      punctual.ordered _ _ ⟨ordered.sorted, ordered.ahead⟩⟩

theorem play_append (moves others : List LoopMove) :
    reactor.play run (moves ++ others) = reactor.play (reactor.play run moves) others :=
  List.foldl_append

theorem play_turn (taken : reactor.turn? run = some next) (moves : List LoopMove) :
    reactor.play run (.turn :: moves) = reactor.play next moves := by
  rw [play, List.foldl_cons, move, taken]
  rfl

theorem play_jump {target : Nat} (reaches : run.loop.canReach target = true)
    (moves : List LoopMove) :
    reactor.play run (.jump target :: moves) = reactor.play (reactor.moveTo target run) moves := by
  rw [play, List.foldl_cons, move, if_pos reaches]
  rfl

/-- Moves keep the timers in order. -/
theorem Punctual.play (punctual : reactor.Punctual) (ordered : run.loop.Ordered)
    (moves : List LoopMove) : (reactor.play run moves).loop.Ordered := by
  induction moves generalizing run with
  | nil => exact ordered
  | cons first moves ih =>
    refine ih (?_ : (reactor.move run first).loop.Ordered)
    have comes := reactor.comes run first
    generalize reactor.move run first = next at comes ⊢
    cases comes with
    | still => exact ordered
    | turned taken => exact (punctual.turn? taken).2 ordered
    | jumped reaches => exact ordered.wakeAt reaches

/-! ## The loops of a reactor -/

theorem settle_eq_play (reactor : Reactor σ τ) (turns : Nat) (run : Run σ τ) :
    ∃ moves, reactor.settle turns run = reactor.play run moves := by
  induction turns generalizing run with
  | zero => exact ⟨[], rfl⟩
  | succ turns ih =>
    rw [settle]
    cases taken : reactor.turn? run with
    | none => exact ⟨[], rfl⟩
    | some next =>
      obtain ⟨moves, settled⟩ := ih next
      exact ⟨.turn :: moves, by rw [play_turn taken]; exact settled⟩

theorem reach_eq_play (punctual : reactor.Punctual) {target : Nat} (turns : Nat)
    (ordered : run.loop.Ordered) (ahead : run.loop.now ≤ target) :
    ∃ moves, reactor.reach target turns run = reactor.play run moves := by
  -- each round is a turn or a jump to the next timer, and the last one jumps to the target
  induction turns generalizing run with
  | zero => exact ⟨[], rfl⟩
  | succ turns ih =>
    rw [reach]
    cases taken : reactor.turn? run with
    | some next =>
      obtain ⟨now, keeps⟩ := punctual.turn? taken
      obtain ⟨moves, reached⟩ := ih (keeps ordered) (now ▸ ahead)
      exact ⟨.turn :: moves, by rw [play_turn taken]; exact reached⟩
    | none =>
      have idle := turn?_eq_none.1 taken
      have last (upTo : ∀ due, run.loop.nextDue? = some due → target ≤ due) :
          ∃ moves, reactor.moveTo target run = reactor.play run moves :=
        ⟨[.jump target], by rw [play_jump (ordered.canReach idle ahead upTo)]; rfl⟩
      dsimp only
      cases next : run.loop.nextDue? with
      | none => exact last (by simp [next])
      | some due =>
        dsimp only
        split
        · rename_i before
          have reaches := ordered.canReach_next idle next
          obtain ⟨moves, reached⟩ :=
            @ih (reactor.moveTo due run) (ordered.wakeAt reaches) (Nat.le_of_lt before)
          exact ⟨.jump due :: moves, by rw [play_jump reaches]; exact reached⟩
        · exact last fun other same => by
            cases next.symm.trans same
            exact Nat.le_of_not_lt ‹_›

theorem pause_eq_play (punctual : reactor.Punctual) (duration : Duration) (turns : Nat)
    (ordered : run.loop.Ordered) :
    ∃ moves, reactor.pause duration turns run = reactor.play run moves := by
  rw [pause]
  split
  · exact ⟨[], rfl⟩
  · exact reach_eq_play punctual turns ordered (Nat.le_add_right _ _)

theorem advance_eq_play (punctual : reactor.Punctual) (millis turns : Nat)
    (ordered : run.loop.Ordered) :
    ∃ moves, reactor.advance millis turns run = reactor.play run moves := by
  obtain ⟨moves, reached⟩ := reach_eq_play punctual turns ordered (Nat.le_add_right _ millis)
  obtain ⟨others, settled⟩ :=
    settle_eq_play reactor turns (reactor.play run moves)
  exact ⟨moves ++ others, by rw [advance, reached, settled, play_append]⟩

/-- A step of a wait is one jump to the next timer, or settles the run. -/
theorem step?_eq_play (turns : Nat) (ordered : run.loop.Ordered)
    (taken : reactor.step? turns run = some next) :
    ∃ moves, next = reactor.play run moves := by
  unfold step? at taken
  split at taken
  · rename_i idle
    obtain ⟨due, first, rfl⟩ := Option.map_eq_some_iff.1 taken
    have reaches := ordered.canReach_next (List.isEmpty_iff.1 idle) first
    exact ⟨[.jump due], by rw [play_jump reaches]; rfl⟩
  · cases taken
    exact settle_eq_play reactor turns run

theorem runUntil_eq_play (punctual : reactor.Punctual) (holds : Run σ τ → Bool) (turns : Nat)
    (ordered : run.loop.Ordered) :
    ∃ moves, reactor.runUntil holds turns run = reactor.play run moves := by
  induction turns generalizing run with
  | zero => exact ⟨[], rfl⟩
  | succ turns ih =>
    rw [runUntil]
    split
    · exact ⟨[], rfl⟩
    · cases taken : reactor.step? turns run with
      | none => exact ⟨[], rfl⟩
      | some next =>
        obtain ⟨moves, rfl⟩ := step?_eq_play turns ordered taken
        obtain ⟨others, reached⟩ := ih (punctual.play ordered moves)
        exact ⟨moves ++ others, by rw [play_append]; exact reached⟩

end Reactor

end Resilience
