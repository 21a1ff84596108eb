import Loopback.Channel.Status
import Loopback.Channel.Lifecycle

/-!
# A channel as a serial device

The control side of a handle on a serial device. All handles share the one channel. A device has
only a read timeout, and the greatest duration stands for having none.
-/

namespace Loopback.Device

/-- An operation of a device. -/
abbrev Operation := Program DeviceFailure

/-- An operation of a channel, with its failures told as those of a device. -/
def ofChannel {α : Type} (operation : Channel.Operation α) : Operation α :=
  operation.mapFailure PortFailure.toDevice

/-- A count in 32 bits. -/
def narrowed (count : Nat) : Nat := min count Text.max32

/-- The read timeout. -/
def timeout {ε : Type} : Program ε Duration := do
  let settings ← Program.getSettings
  pure (settings.readTimeout.getD .max)

/-- Change the read timeout. -/
def setTimeout {ε : Type} (timeout : Duration) : Program ε Unit :=
  Channel.setReadTimeout (if timeout = .max then none else some timeout)

/-- Change the baud rate. -/
def setBaudRate (rate : UInt32) : Operation Unit := ofChannel (Channel.setBaudRate rate)

/-- Clear To Send. -/
def clearToSend : Operation Bool := ofChannel Channel.clearToSend

/-- Data Set Ready. -/
def dataSetReady : Operation Bool := ofChannel Channel.dataSetReady

/-- How many bytes wait to be read. -/
def bytesToRead : Operation Nat := do
  let count ← ofChannel Channel.inWaiting
  pure (narrowed count)

/-- How many bytes wait to be sent. -/
def bytesToWrite : Operation Nat := do
  let count ← ofChannel Channel.outWaiting
  pure (narrowed count)

/-- A buffer of a device, or both. -/
inductive Buffer where
  | input
  | output
  | all
deriving DecidableEq, Repr

/-- Drop what waits in a buffer. -/
def clear : Buffer → Operation Unit
  | .input => ofChannel Channel.resetInput
  | .output => ofChannel Channel.resetOutput
  | .all => do
    ofChannel Channel.resetInput
    ofChannel Channel.resetOutput

/-- The handle shown with its channel. -/
def text {ε : Type} : Program ε String := do
  let channel ← Channel.text
  pure (Text.record "LoopbackPort" [("channel", channel)])

end Loopback.Device
