import Loopback.Channel.Buffers
import Loopback.Json.Basic

/-!
# Settings and status of a channel

Changing settings checks the baud rate first and changes nothing if it is wrong. The status is a
snapshot of everything that can be asked of a channel.
-/

namespace Loopback

/-- A snapshot of a channel. -/
structure ChannelStatus where
  address : Option String
  isOpen : Bool
  capacity : Nat
  inWaiting : Option Nat
  baudRate : UInt32
  readTimeoutMillis : Option Nat
  writeTimeoutMillis : Option Nat
  requestToSend : Bool
  dataTerminalReady : Bool
  breakCondition : Bool
  diagnostics : Option Severity
deriving DecidableEq

namespace ChannelStatus

/-- A status as an object. -/
def toJson (status : ChannelStatus) : Json :=
  .object [
    ("port", Json.optional .string status.address),
    ("is_open", .bool status.isOpen),
    ("capacity", .natural status.capacity),
    ("in_waiting", Json.optional .natural status.inWaiting),
    ("baud_rate", .natural status.baudRate.toNat),
    ("read_timeout_ms", Json.optional .natural status.readTimeoutMillis),
    ("write_timeout_ms", Json.optional .natural status.writeTimeoutMillis),
    ("rts", .bool status.requestToSend),
    ("dtr", .bool status.dataTerminalReady),
    ("break_state", .bool status.breakCondition),
    ("diagnostics", Json.optional (fun level => .string level.name) status.diagnostics)]

end ChannelStatus

namespace Channel

variable {ε : Type}

/-- The address of the channel. -/
def getAddress : Program ε (Option String) := .perform .getAddress

/-- The level of the diagnostics that the last opening attached. -/
def getDiagnostics : Program ε (Option Severity) := .perform .getDiagnostics

/-- Replace all settings. -/
def applySettings (settings : PortSettings) : Operation Unit := do
  let _ ← Program.ofExcept (checkBaudRate settings.baudRate.toNat)
  Program.changeSettings fun _ => settings
  if ← Program.getOpen then reconfigure else pure ()

/-- Change the baud rate. -/
def setBaudRate (rate : UInt32) : Operation Unit := do
  let rate ← Program.ofExcept (checkBaudRate rate.toNat)
  Program.changeSettings fun settings => { settings with baudRate := rate }
  if ← Program.getOpen then reconfigure else pure ()

/-- Change the read timeout. -/
def setReadTimeout (timeout : Option Duration) : Program ε Unit :=
  Program.changeSettings fun settings => { settings with readTimeout := timeout }

/-- Change the write timeout. -/
def setWriteTimeout (timeout : Option Duration) : Program ε Unit :=
  Program.changeSettings fun settings => { settings with writeTimeout := timeout }

/-- Change the number of data bits. -/
def setDataBits (dataBits : DataBits) : Program ε Unit :=
  Program.changeSettings fun settings => { settings with dataBits }

/-- Change the parity. -/
def setParity (parity : Parity) : Program ε Unit :=
  Program.changeSettings fun settings => { settings with parity }

/-- Change the number of stop bits. -/
def setStopBits (stopBits : StopBits) : Program ε Unit :=
  Program.changeSettings fun settings => { settings with stopBits }

/-- Change the flow control. -/
def setFlowControl (flowControl : FlowControl) : Program ε Unit :=
  Program.changeSettings fun settings => { settings with flowControl }

/-- A count, if it can be made. -/
def counted (count : Operation Nat) : Program ε (Option Nat) := do
  match ← count.attempt with
  | .ok n => pure (some n)
  | .error _ => pure none

/-- The status of the channel. -/
def status : Program ε ChannelStatus := do
  let settings ← Program.getSettings
  let isOpen ← Program.getOpen
  let address ← getAddress
  let traits ← Program.getTraits
  let inWaiting ← if isOpen then counted inWaiting else pure none
  let requestToSend ← Program.getLine .requestToSend
  let dataTerminalReady ← Program.getLine .dataTerminalReady
  let breakCondition ← Program.getLine .breakCondition
  let diagnostics ← getDiagnostics
  pure {
    address, isOpen, inWaiting, requestToSend, dataTerminalReady, breakCondition, diagnostics
    capacity := traits.capacity
    baudRate := settings.baudRate
    readTimeoutMillis := settings.readTimeout.map Duration.saturatingMillis
    writeTimeoutMillis := settings.writeTimeout.map Duration.saturatingMillis }

/-- The channel shown with its fields. -/
def text : Program ε String := do
  let address ← getAddress
  let isOpen ← Program.getOpen
  let traits ← Program.getTraits
  let settings ← Program.getSettings
  pure <| Text.record "LoopbackChannel" [
    ("port", Text.optional Text.quoted address),
    ("is_open", Text.truth isOpen),
    ("capacity", Text.decimal traits.capacity),
    ("settings", settings.text)]

end Channel

end Loopback
