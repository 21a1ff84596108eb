import Loopback.Failure.Port
import Loopback.Machine.World
import Loopback.Queue.Calls

/-!
# Common steps of channel operations

Reading and changing the state of a channel, its diagnostics, and the check that it is open.
-/

namespace Loopback

namespace Program

variable {ε α : Type}

/-- Whether the channel is open. -/
def getOpen : Program ε Bool := .perform .getOpen

/-- The settings of the channel. -/
def getSettings : Program ε PortSettings := .perform .getSettings

/-- The present instant. -/
def getClock : Program ε Duration.Instant := .perform .getClock

/-- The level of a line. -/
def getLine (line : Line) : Program ε Bool := .perform (.getLine line)

/-- What never changes about the channel. -/
def getTraits : Program ε Traits := .perform .getTraits

/-- A message to the channel's diagnostics, if it has any. -/
def note (severity : Severity) (message : String) : Program ε Unit :=
  .perform (.note severity message)

/-- Change a setting. -/
def changeSettings (change : PortSettings → PortSettings) : Program ε Unit :=
  .perform (.changeSettings change)

/-- Do nothing for some time. A pause may last past what the clock can hold. -/
def sleep (duration : Duration) : Program ε Unit := do
  let now ← getClock
  .perform (.pause (now + duration.nanos))

/-- A program with an action at its end, however it ends. -/
def thenAlways (last : Action) : Program ε α → Program ε α
  | .done result => .act last fun _ => .done result
  | .fail failure => .act last fun _ => .fail failure
  | .abort message => .act last fun _ => .abort message
  | .act action next => .act action fun reply => thenAlways last (next reply)

/-- A program that no other opening or closing can interrupt. -/
def exclusively (program : Program ε α) : Program ε α :=
  .act .enterLifecycle fun _ => program.thenAlways .leaveLifecycle

end Program

namespace Channel

/-- An operation on a channel. -/
abbrev Operation := Program PortFailure

/-- Go on only if the channel is open. -/
def ensureOpen : Operation Unit := do
  if ← Program.getOpen then pure () else .fail .notOpen

/-- The current session of an open channel. -/
def liveSession : Operation Session := do
  ensureOpen
  match ← Program.perform .getSession with
  | some session => pure session
  | none => .fail .notOpen

/-- Check the settings of the channel, of which only the baud rate can be wrong. -/
def reconfigure : Operation Unit := do
  let settings ← Program.getSettings
  let rate ← Program.ofExcept (checkBaudRate settings.baudRate.toNat)
  Program.note .info ("reconfigure(baud_rate=" ++ Text.decimal rate.toNat ++ ")")

end Channel

end Loopback
