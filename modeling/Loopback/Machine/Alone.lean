import Loopback.Machine.World

/-!
# A program with no other task about

A program that runs alone answers step by step. Nobody can end its waits, so each lasts until
its deadline, to which the clock then moves; a wait without a deadline lasts for ever.
-/

namespace Loopback

/-- What comes of a program that runs alone: its end, or an endless wait in an action. -/
inductive Solo (ε α : Type) where
  | ended (outcome : Outcome ε α) (world : World)
  | asleep (action : Action) (world : World)

namespace Program

variable {ε α : Type}

/-- Run a program as a task with no other task about. -/
def alone (task : Nat) : Program ε α → World → Solo ε α
  | .done result, w => .ended (.ok result) w
  | .fail failure, w => .ended (.failed failure) w
  | .abort message, w => .ended (.aborted message) w
  | .act action next, w =>
    match action.run task w with
    | .reply answer w _ => alone task (next answer) w
    | .wait otherwise =>
      match action.deadline? with
      | some deadline => alone task (next otherwise) { w with now := max w.now deadline }
      | none => .asleep action w
    | .held => .asleep action w

end Program

end Loopback
