import Loopback.Channel.Data
import Loopback.Channel.Lifecycle
import Loopback.Channel.Status

/-!
# A channel as a plain serial port

The few operations that any serial port has. A port that cannot count what it holds answers that
it does not know.
-/

namespace Loopback.Adapter

open Loopback.Channel (Operation)

/-- Write bytes. -/
def writeBytes (data : List UInt8) : Operation Nat := Channel.write data

/-- Read up to `size` bytes. -/
def readBytes (size : Nat) : Operation (List UInt8) := Channel.read size

/-- The name of the port: its address, or nothing. -/
def name {ε : Type} : Program ε String := do
  let address ← Channel.getAddress
  pure (address.getD "")

/-- Change the read timeout. -/
def setReadTimeout (timeout : Option Duration) : Operation Unit := Channel.setReadTimeout timeout

/-- Drop what waits in either direction. -/
def clearBuffers : Operation Unit := do
  Channel.resetInput
  Channel.resetOutput

/-- How many bytes wait to be read, if known. -/
def bytesToRead {ε : Type} : Program ε (Option Nat) := Channel.counted Channel.inWaiting

/-- How many bytes wait to be sent, if known. -/
def bytesToWrite {ε : Type} : Program ε (Option Nat) := Channel.counted Channel.outWaiting

end Loopback.Adapter
