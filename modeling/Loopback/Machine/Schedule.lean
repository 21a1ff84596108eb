import Loopback.Machine.Step

/-!
# One order of moves

The order in which tasks are run where nothing else decides it: the first task that can move
moves, but one that opens or closes the channel next only if no other can; a call wakes the sleeper
that lay down first, and every move takes a nanosecond. Only when no task can move does the clock go
on to the next deadline.
-/

namespace Loopback.Machine

variable {ε α : Type}

/-- The sleeper at a queue that lay down first, with its ticket. -/
def firstSleeper? (m : Machine ε α) (session : Session) (want : Want) : Option Nat :=
  let sleepers := m.tasks.zipIdx.filterMap fun (task, index) =>
    match task with
    | .asleep ticket _ _ => if task.sleepsAt session want then some (ticket, index) else none
    | _ => none
  match sleepers with
  | [] => none
  | first :: rest =>
    some (rest.foldl (fun best next => if next.1 < best.1 then next else best) first).2

/-- The move that a task would make. -/
def moveOf? (m : Machine ε α) (task : Nat) : Option Move :=
  match m.tasks[task]? with
  | none => none
  | some (.running program) => if program.outcome?.isSome then none else some (.act task)
  | some (.calling (.one session want) _) =>
    match m.firstSleeper? session want with
    | some sleeper => some (.wake task sleeper)
    | none => some (.act task)
  | some (.calling (.every _ _) _) => some (.act task)
  | some (.asleep _ _ _) => some (.expire task)
  | some (.lapsed _ _) => some (.act task)

/-- Whether a task comes to open or close the channel next. -/
def entersNext (m : Machine ε α) (task : Nat) : Bool :=
  match m.tasks[task]? with
  | some (.running (.act .enterLifecycle _)) => true
  | _ => false

/-- The tasks in the order in which they are asked to move. Those that are to open or close the
channel next come last, so whoever has just done so goes on before any of them begins. -/
def order (m : Machine ε α) : List Nat :=
  let (entering, others) := (List.range m.tasks.length).partition m.entersNext
  others ++ entering

/-- The machine a nanosecond later. -/
def later (m : Machine ε α) (nanos : Nat) : Machine ε α :=
  { m with world := { m.world with now := m.world.now + nanos } }

/-- The first task in order that can move moves, and a nanosecond passes. -/
def advance? (m : Machine ε α) : Option (Machine ε α) :=
  (m.order.findSome? fun task => (m.moveOf? task).bind m.step).map (·.later 1)

/-- The next instant at which a sleeper's deadline comes. -/
def nextDeadline? (m : Machine ε α) : Option Duration.Instant :=
  (m.tasks.filterMap fun
    | .asleep _ action _ => action.deadline?
    | _ => none).min?

/-- How a task has ended, if it has. -/
def outcomeOf? (m : Machine ε α) (task : Nat) : Option (Outcome ε α) :=
  match m.tasks[task]? with
  | some state => state.outcome?
  | none => none

/-- Run all tasks until none can move, while the clock stands but for the moves themselves. -/
def settle : Nat → Machine ε α → Machine ε α
  | 0, m => m
  | fuel + 1, m =>
    match m.advance? with
    | some moved => settle fuel moved
    | none => m

/-- Run all tasks until given ones have ended, letting time pass when none can move. There is no
answer if they never end. -/
def finish (awaited : List Nat) : Nat → Machine ε α → Option (Machine ε α)
  | 0, _ => none
  | fuel + 1, m =>
    if awaited.all fun task => (m.outcomeOf? task).isSome then some m
    else
      match m.advance? with
      | some moved => finish awaited fuel moved
      | none =>
        match m.nextDeadline? with
        | some deadline => finish awaited fuel (m.later (deadline - m.world.now))
        | none => none

/-- More moves than any run makes. -/
def fuel : Nat := Nat.pow 10 36

end Loopback.Machine
