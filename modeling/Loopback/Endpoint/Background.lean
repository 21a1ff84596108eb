import Loopback.Endpoint.Adapter

/-!
# A port run by background tasks

Every call on the port is made by a task of its own, which the caller waits for. If that task is
aborted, the caller gets a failure instead. A port that cannot count what it holds is taken for
closed.
-/

namespace Loopback.Background

/-- Why a call by way of a background task failed. -/
inductive Failure where
  | port (failure : PortFailure)
  | taskAborted (message : String)
deriving DecidableEq, Repr

namespace Failure

/-- The failure as the port's own. An aborted task counts as failed input or output. -/
def toPort : Failure → PortFailure
  | .port failure => failure
  | .taskAborted message => .io (.custom .other message)

/-- The wording of a failure. -/
def message (failure : Failure) : String := failure.toPort.message

/-- The failure shown with its parts. -/
def text (failure : Failure) : String := failure.toPort.text

end Failure

/-- An operation by way of a background task. -/
abbrev Operation := Program Failure

/-- Have a task of its own run a program on the port. -/
def runTask {α : Type} (program : Channel.Operation α) : Operation α :=
  (program.mapFailure Failure.port).sheltered Failure.taskAborted

/-- Write bytes. -/
def writeBytes (data : List UInt8) : Operation Nat := runTask (Adapter.writeBytes data)

/-- Read up to `size` bytes. -/
def readBytes (size : Nat) : Operation (List UInt8) := runTask (Adapter.readBytes size)

/-- The count a port gives, or the failure of a closed one if it gives none. -/
def required (count : Channel.Operation (Option Nat)) : Channel.Operation Nat := do
  match ← count with
  | some n => pure n
  | none => .fail .notOpen

/-- How many bytes wait to be read. -/
def bytesAvailable : Operation Nat := runTask (required Adapter.bytesToRead)

/-- Close the channel. -/
def close : Operation Unit := runTask Channel.closePort

/-- A port shown as what is wrapped in background tasks. -/
def shown (inner : String) : String := Text.record "BlockingPortWrapper" [("inner", inner)]

/-- The wrapper shown with its channel. -/
def text {ε : Type} : Program ε String := do
  let channel ← Channel.text
  pure (shown channel)

end Loopback.Background
