import Loopback.Channel.Builder
import Loopback.Endpoint.Background
import Loopback.Machine.Alone
import Loopback.Machine.Schedule

/-!
# One message there and back

A channel is opened, a task sends a message, a second one reads as many bytes back, and the channel
is closed. It is closed also if sending fails; the second task may still be reading then, and
nothing it does after that counts.
-/

namespace Loopback.CommandLine

/-- What became of a message: how much of it was sent, and what came back. -/
structure Echo where
  sent : Nat
  received : List UInt8
deriving DecidableEq

/-- What one task of an echo answers. -/
inductive EchoPart where
  | sent (count : Nat)
  | received (bytes : List UInt8)

namespace Echo

/-- No task has answered. -/
def start : Echo := ⟨0, []⟩

/-- Add what a task answers. -/
def add (echo : Echo) : EchoPart → Echo
  | .sent count => { echo with sent := count }
  | .received bytes => { echo with received := bytes }

/-- The place of the task that sends. -/
def sender : Nat := 0

/-- The place of the task that reads. -/
def reader : Nat := 1

/-- The two tasks before they begin. -/
def machine (world : World) (message : List UInt8) : Machine Background.Failure EchoPart :=
  ⟨world, [
    .running (do return .sent (← Background.writeBytes message)),
    .running (do return .received (← Background.readBytes message.length))], 0⟩

/-- Run until a task has ended, and add what it answers. -/
def await? (m : Machine Background.Failure EchoPart) (task : Nat) (echo : Echo) :
    Option (Except Background.Failure Echo × Machine Background.Failure EchoPart) := do
  let m ← m.finish [task] Machine.fuel
  match ← m.outcomeOf? task with
  | .ok part => some (.ok (echo.add part), m)
  | .failed failure => some (.error failure, m)
  | .aborted message => some (.error (.taskAborted message), m)

/-- Send a message and read it back. If sending fails, reading is not waited for. There is no
answer if this never ends. -/
def run? (world : World) (message : List UInt8) :
    Option (Except Background.Failure Echo × World) := do
  match ← await? (machine world message) sender start with
  | (.error failure, m) => some (.error failure, m.world)
  | (.ok echo, m) =>
    let (result, m) ← await? m reader echo
    some (result, m.world)

end Echo

/-- What is reported when the channel is open. -/
def openEvent (address : String) : Event where
  severity := .info
  target := Event.commandTarget
  message := "channel open"
  fields := [("port", .string address)]

/-- What is reported when no echo came. -/
def failedEvent (reason : String) : Event where
  severity := .error
  target := Event.commandTarget
  message := "loopback echo failed"
  fields := [("error", .string reason)]

/-- Open the channel, and report that. -/
def opening : Background.Operation Unit := do
  Background.runTask Channel.openPort
  let address ← Adapter.name
  .perform (.report (openEvent address))

/-- Look at the channel and close it. A missing echo is reported then, and fails. -/
def closing (echo : Except Background.Failure Echo) :
    Background.Operation (Echo × ChannelStatus) := do
  let status ← Channel.status
  Background.close
  match echo with
  | .ok echo => pure (echo, status)
  | .error failure =>
    .perform (.report (failedEvent failure.message))
    .fail failure

/-- An echo, how long it took, and the channel just after. -/
structure Exchange where
  echo : Echo
  elapsed : Duration
  status : ChannelStatus

namespace Exchange

/-- The place of the task that opens and closes the channel. -/
def owner : Nat := 0

/-- Run a program with no other task about. There is no answer if it never ends. -/
def alone? {α : Type} (program : Background.Operation α) (world : World) :
    Option (Except Background.Failure α × World) :=
  match program.alone owner world with
  | .ended (.ok result) world => some (.ok result, world)
  | .ended (.failed failure) world => some (.error failure, world)
  | .ended (.aborted message) world => some (.error (.taskAborted message), world)
  | .asleep _ _ => none

/-- Open a channel, send a message, read it back and close the channel. There is no answer if
this never ends. -/
def run? (builder : Builder) (message : List UInt8) :
    Option (Except Background.Failure Exchange × World) := do
  match ← alone? opening builder.world with
  | (.error failure, world) => some (.error failure, world)
  | (.ok (), opened) =>
    let (echo, after) ← Echo.run? opened message
    let (result, closed) ← alone? (closing echo) after
    let elapsed : Duration := ⟨after.now - opened.now⟩
    some (result.map fun (echo, status) => ⟨echo, elapsed, status⟩, closed)

end Exchange

end Loopback.CommandLine
