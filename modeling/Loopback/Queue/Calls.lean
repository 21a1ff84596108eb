import Loopback.Duration
import Loopback.Machine.Program

/-!
# Calls on a queue

What a task does at the queue of a session: it waits for room or for an element as long as a
timeout allows, or it does not wait at all. Waiting without a timeout, or with one past the clock,
ends only when there is something to go on with.
-/

namespace Loopback

/-- An element handed back, since no room opened up in time. -/
structure Full where
  item : Item
deriving DecidableEq, Repr

namespace QueueCall

variable {ε : Type}

/-- Queue an element against the capacity, waiting for room. -/
def push (session : Session) (item : Item) (timeout : Option Duration) : Program Full Unit := do
  let now ← Program.perform .getClock
  if ← Program.perform (.push session item (Duration.deadline? now timeout)) then pure ()
  else .fail ⟨item⟩

/-- Queue an element past the capacity. -/
def append (session : Session) (item : Item) : Program ε Unit :=
  .perform (.append session item)

/-- Take the oldest element, waiting for one. -/
def pop (session : Session) (timeout : Option Duration) : Program ε (Option Item) := do
  let now ← Program.perform .getClock
  .perform (.pop session (Duration.deadline? now timeout))

/-- Take the oldest element if one is queued right now. -/
def tryPop (session : Session) : Program ε (Option Item) := do
  let now ← Program.perform .getClock
  .perform (.pop session (some now))

/-- Drop all elements, and say how many there were. -/
def clear (session : Session) : Program ε Nat :=
  .perform (.clear session)

end QueueCall

end Loopback
