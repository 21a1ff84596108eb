import Loopback.Machine.Action

/-!
# Programs of a task

A program is what a task still has to do: nothing more, having succeeded, failed or been
aborted, or one action and then, depending on its answer, another program. Programs are built
with `do`; a failure or an abortion ends what follows it.
-/

namespace Loopback

/-- What a task still has to do. -/
inductive Program (ε α : Type) where
  | done (result : α)
  | fail (failure : ε)
  | abort (message : String)
  | act (action : Action) (next : action.Reply → Program ε α)

/-- How a program ends. -/
inductive Outcome (ε α : Type) where
  | ok (result : α)
  | failed (failure : ε)
  | aborted (message : String)
deriving DecidableEq, Repr

namespace Program

variable {ε δ α β : Type}

/-- One program, and then another made from its result. -/
def bind : Program ε α → (α → Program ε β) → Program ε β
  | .done result, rest => rest result
  | .fail failure, _ => .fail failure
  | .abort message, _ => .abort message
  | .act action next, rest => .act action fun reply => bind (next reply) rest

instance : Monad (Program ε) where
  pure := .done
  bind := bind

/-- A single action. -/
def perform (action : Action) : Program ε action.Reply :=
  .act action .done

/-- The result of a check made beforehand. -/
def ofExcept : Except ε α → Program ε α
  | .ok result => .done result
  | .error failure => .fail failure

/-- The same program with its failure told in other terms. -/
def mapFailure (f : ε → δ) : Program ε α → Program δ α
  | .done result => .done result
  | .fail failure => .fail (f failure)
  | .abort message => .abort message
  | .act action next => .act action fun reply => mapFailure f (next reply)

/-- A program that succeeds with the failure of another. -/
def attempt : Program ε α → Program δ (Except ε α)
  | .done result => .done (.ok result)
  | .fail failure => .done (.error failure)
  | .abort message => .abort message
  | .act action next => .act action fun reply => attempt (next reply)

/-- A program that fails where another is aborted. -/
def sheltered (f : String → ε) : Program ε α → Program ε α
  | .done result => .done result
  | .fail failure => .fail failure
  | .abort message => .fail (f message)
  | .act action next => .act action fun reply => sheltered f (next reply)

/-- How a program has ended, if it has. -/
def outcome? : Program ε α → Option (Outcome ε α)
  | .done result => some (.ok result)
  | .fail failure => some (.failed failure)
  | .abort message => some (.aborted message)
  | .act _ _ => none

/-- What follows a result is made from that. -/
@[simp] theorem bind_done (result : α) (rest : α → Program ε β) :
    (Program.done result >>= rest) = rest result := rfl

/-- Nothing follows a failure. -/
@[simp] theorem bind_fail (failure : ε) (rest : α → Program ε β) :
    ((Program.fail failure : Program ε α) >>= rest) = .fail failure := rfl

/-- What follows an action follows each of its answers. -/
@[simp] theorem bind_act (action : Action) (next : action.Reply → Program ε α)
    (rest : α → Program ε β) :
    (Program.act action next >>= rest) = .act action fun reply => next reply >>= rest := rfl

end Program

end Loopback
