import Loopback.Machine.World

/-!
# Tasks that take turns

A machine is a world and tasks, each at some point of its program. A move is one atomic step of
one task, the passing of time, or the end of a wait whose deadline has come. Which move comes
next is open, and so is which of several sleepers answers a call to one of them.

A call to sleepers is a step of its own, made after the step that gave rise to it: in between,
any other task may act. A sleeper that is called, or whose deadline has come, tries its action
again, and others may have been there before it.
-/

namespace Loopback

/-- Where a task stands. -/
inductive Task (ε α : Type) where
  | running (program : Program ε α)
  | calling (call : Call) (program : Program ε α)
  | asleep (ticket : Nat) (action : Action) (next : action.Reply → Program ε α)
  | lapsed (action : Action) (next : action.Reply → Program ε α)

/-- A world and its tasks. Tickets number the sleepers in the order in which they lay down. -/
structure Machine (ε α : Type) where
  world : World
  tasks : List (Task ε α)
  tickets : Nat

/-- What may happen next: a task acts, a calling task wakes one sleeper, a sleeper's deadline
comes, or time passes. -/
inductive Move where
  | act (task : Nat)
  | wake (caller sleeper : Nat)
  | expire (task : Nat)
  | tick (nanos : Nat)
deriving DecidableEq, Repr

namespace Task

variable {ε α : Type}

/-- How a task has ended, if it has. -/
def outcome? : Task ε α → Option (Outcome ε α)
  | .running program => program.outcome?
  | _ => none

/-- Whether a task sleeps at a queue, waiting for something there. -/
def sleepsAt (session : Session) (want : Want) : Task ε α → Bool
  | .asleep _ action _ => action.post? == some (session, want)
  | _ => false

/-- A task that slept tries its action again. -/
def woken : Task ε α → Task ε α
  | .asleep _ action next => .running (.act action next)
  | task => task

/-- A task with something to call out before it goes on. -/
def after (call : Option Call) (program : Program ε α) : Task ε α :=
  match call with
  | none => .running program
  | some call => .calling call program

end Task

namespace Machine

variable {ε α : Type}

/-- The machine with a task at another point. -/
def setTask (m : Machine ε α) (task : Nat) (state : Task ε α) : Machine ε α :=
  { m with tasks := m.tasks.set task state }

/-- Whether some task sleeps at a queue, waiting for something there. -/
def hasSleeper (m : Machine ε α) (session : Session) (want : Want) : Bool :=
  m.tasks.any (·.sleepsAt session want)

/-- One task acts. -/
def act (m : Machine ε α) (task : Nat) : Option (Machine ε α) :=
  match m.tasks[task]? with
  | some (.running (.act action next)) =>
    match action.run task m.world with
    | .reply answer world call =>
      some { m.setTask task (.after call (next answer)) with world }
    | .wait _ =>
      some { m.setTask task (.asleep m.tickets action next) with tickets := m.tickets + 1 }
    | .held => none
  | some (.lapsed action next) =>
    match action.run task m.world with
    | .reply answer world call =>
      some { m.setTask task (.after call (next answer)) with world }
    | .wait otherwise => some (m.setTask task (.running (next otherwise)))
    | .held => none
  | some (.calling (.one session want) program) =>
    if m.hasSleeper session want then none else some (m.setTask task (.running program))
  | some (.calling (.every session want) program) =>
    let tasks := m.tasks.map fun t => if t.sleepsAt session want then t.woken else t
    some ({ m with tasks }.setTask task (.running program))
  | _ => none

/-- A task that calls one sleeper wakes a given one. -/
def wake (m : Machine ε α) (caller sleeper : Nat) : Option (Machine ε α) :=
  match m.tasks[caller]?, m.tasks[sleeper]? with
  | some (.calling (.one session want) program), some t =>
    if t.sleepsAt session want then
      some ((m.setTask sleeper t.woken).setTask caller (.running program))
    else none
  | _, _ => none

/-- A sleeper whose deadline has come stops waiting. -/
def expire (m : Machine ε α) (task : Nat) : Option (Machine ε α) :=
  match m.tasks[task]? with
  | some (.asleep _ action next) =>
    match action.deadline? with
    | some deadline =>
      if deadline ≤ m.world.now then some (m.setTask task (.lapsed action next)) else none
    | none => none
  | _ => none

/-- Make a move, if it is open. -/
def step (m : Machine ε α) : Move → Option (Machine ε α)
  | .act task => m.act task
  | .wake caller sleeper => m.wake caller sleeper
  | .expire task => m.expire task
  | .tick nanos => some { m with world := { m.world with now := m.world.now + nanos } }

/-- A machine that some moves lead to. -/
inductive Reachable (start : Machine ε α) : Machine ε α → Prop where
  | start : Reachable start start
  | step {m m' : Machine ε α} (move : Move) :
      Reachable start m → m.step move = some m' → Reachable start m'

end Machine

end Loopback
