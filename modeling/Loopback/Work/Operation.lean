import Loopback.Channel.Status
import Loopback.Endpoint.Background
import Loopback.Endpoint.Device
import Loopback.Endpoint.Stream

/-!
# Operations and their answers

Everything that can be asked of a channel through any of its ends, each with the program that
carries it out. All programs answer in one type and fail in one type, so that tasks which do
different things can run side by side.
-/

namespace Loopback

/-- Why an operation failed, in the terms of the end it was asked through. -/
inductive Failure where
  | port (failure : PortFailure)
  | stream (failure : IoFailure)
  | device (failure : DeviceFailure)
  | background (failure : Background.Failure)
deriving DecidableEq, Repr

/-- What an operation answers. -/
inductive Answer where
  | nothing
  | flag (value : Bool)
  | count (value : Nat)
  | maybeCount (value : Option Nat)
  | bytes (value : List UInt8)
  | maybeByte (value : Option UInt8)
  | text (value : String)
  | maybeText (value : Option String)
  | duration (value : Duration)
  | maybeDuration (value : Option Duration)
  | severity (value : Option Severity)
  | settings (value : PortSettings)
  | status (value : ChannelStatus)
  | collected (value : Stream.Collected)

/-- A task of a session. -/
abbrev Job := Program Failure Answer

namespace Program

variable {ε α : Type}

/-- A program as a job, given how its result and its failure are told. -/
def job (program : Program ε α) (failure : ε → Failure) (answer : α → Answer) : Job := do
  let result ← program.mapFailure failure
  pure (answer result)

end Program

/-- What is asked of the channel itself. -/
inductive ChannelOperation where
  | openPort
  | closePort
  | isOpen
  | write (data : List UInt8)
  | read (size : Nat)
  | readOne
  | readAvailable (limit : Nat)
  | flush
  | inWaiting
  | outWaiting
  | resetInput
  | resetOutput
  | capacity
  | setLine (line : Line) (level : Bool)
  | getLine (line : Line)
  | clearToSend
  | dataSetReady
  | ringIndicator
  | carrierDetect
  | sendBreak (duration : Duration)
  | getAddress
  | setAddress (address : Option String)
  | getSettings
  | applySettings (settings : PortSettings)
  | baudRate
  | setBaudRate (rate : UInt32)
  | readTimeout
  | writeTimeout
  | setReadTimeout (timeout : Option Duration)
  | setWriteTimeout (timeout : Option Duration)
  | setDataBits (value : DataBits)
  | setParity (value : Parity)
  | setStopBits (value : StopBits)
  | setFlowControl (value : FlowControl)
  | diagnostics
  | status
  | text

namespace ChannelOperation

/-- Set a line, with the note that goes with it. -/
def setLineProgram (level : Bool) : Line → Channel.Operation Unit
  | .requestToSend => Channel.setRequestToSend level
  | .dataTerminalReady => Channel.setDataTerminalReady level
  | .breakCondition => Channel.setBreak level

/-- The program of an operation on the channel itself. -/
def job : ChannelOperation → Job
  | .openPort => Channel.openPort.job .port fun _ => .nothing
  | .closePort => (Channel.closePort : Channel.Operation Unit).job .port fun _ => .nothing
  | .isOpen => (Program.getOpen : Channel.Operation Bool).job .port .flag
  | .write data => (Channel.write data).job .port .count
  | .read size => (Channel.read size).job .port .bytes
  | .readOne => Channel.readOne.job .port .maybeByte
  | .readAvailable limit => (Channel.readAvailable limit).job .port .bytes
  | .flush => Channel.flush.job .port fun _ => .nothing
  | .inWaiting => Channel.inWaiting.job .port .count
  | .outWaiting => Channel.outWaiting.job .port .count
  | .resetInput => Channel.resetInput.job .port fun _ => .nothing
  | .resetOutput => Channel.resetOutput.job .port fun _ => .nothing
  | .capacity =>
    (Program.getTraits : Channel.Operation Traits).job .port fun traits => .count traits.capacity
  | .setLine line level => (setLineProgram level line).job .port fun _ => .nothing
  | .getLine line => (Program.getLine line : Channel.Operation Bool).job .port .flag
  | .clearToSend => Channel.clearToSend.job .port .flag
  | .dataSetReady => Channel.dataSetReady.job .port .flag
  | .ringIndicator => (Channel.ringIndicator : Channel.Operation Bool).job .port .flag
  | .carrierDetect => (Channel.carrierDetect : Channel.Operation Bool).job .port .flag
  | .sendBreak duration => (Channel.sendBreak duration).job .port fun _ => .nothing
  | .getAddress => (Channel.getAddress : Channel.Operation (Option String)).job .port .maybeText
  | .setAddress address => (Channel.setAddress address).job .port fun _ => .nothing
  | .getSettings => (Program.getSettings : Channel.Operation PortSettings).job .port .settings
  | .applySettings settings => (Channel.applySettings settings).job .port fun _ => .nothing
  | .baudRate =>
    (Program.getSettings : Channel.Operation PortSettings).job .port fun settings =>
      .count settings.baudRate.toNat
  | .setBaudRate rate => (Channel.setBaudRate rate).job .port fun _ => .nothing
  | .readTimeout =>
    (Program.getSettings : Channel.Operation PortSettings).job .port fun settings =>
      .maybeDuration settings.readTimeout
  | .writeTimeout =>
    (Program.getSettings : Channel.Operation PortSettings).job .port fun settings =>
      .maybeDuration settings.writeTimeout
  | .setReadTimeout timeout =>
    (Channel.setReadTimeout timeout : Channel.Operation Unit).job .port fun _ => .nothing
  | .setWriteTimeout timeout =>
    (Channel.setWriteTimeout timeout : Channel.Operation Unit).job .port fun _ => .nothing
  | .setDataBits value =>
    (Channel.setDataBits value : Channel.Operation Unit).job .port fun _ => .nothing
  | .setParity value =>
    (Channel.setParity value : Channel.Operation Unit).job .port fun _ => .nothing
  | .setStopBits value =>
    (Channel.setStopBits value : Channel.Operation Unit).job .port fun _ => .nothing
  | .setFlowControl value =>
    (Channel.setFlowControl value : Channel.Operation Unit).job .port fun _ => .nothing
  | .diagnostics =>
    (Channel.getDiagnostics : Channel.Operation (Option Severity)).job .port .severity
  | .status => (Channel.status : Channel.Operation ChannelStatus).job .port .status
  | .text => (Channel.text : Channel.Operation String).job .port .text

end ChannelOperation

/-- What is asked of the channel as a plain serial port. -/
inductive AdapterOperation where
  | write (data : List UInt8)
  | read (size : Nat)
  | name
  | setReadTimeout (timeout : Option Duration)
  | clear
  | bytesToRead
  | bytesToWrite

/-- The program of an operation on a plain serial port. -/
def AdapterOperation.job : AdapterOperation → Job
  | .write data => (Adapter.writeBytes data).job .port .count
  | .read size => (Adapter.readBytes size).job .port .bytes
  | .name => (Adapter.name : Channel.Operation String).job .port .text
  | .setReadTimeout timeout => (Adapter.setReadTimeout timeout).job .port fun _ => .nothing
  | .clear => Adapter.clearBuffers.job .port fun _ => .nothing
  | .bytesToRead => (Adapter.bytesToRead : Channel.Operation (Option Nat)).job .port .maybeCount
  | .bytesToWrite => (Adapter.bytesToWrite : Channel.Operation (Option Nat)).job .port .maybeCount

/-- What is asked of the channel by way of background tasks. -/
inductive BackgroundOperation where
  | write (data : List UInt8)
  | read (size : Nat)
  | name
  | bytesAvailable
  | close
  | setReadTimeout (timeout : Option Duration)
  | text

/-- The program of an operation by way of background tasks. -/
def BackgroundOperation.job : BackgroundOperation → Job
  | .write data => (Background.writeBytes data).job .background .count
  | .read size => (Background.readBytes size).job .background .bytes
  | .name => (Adapter.name : Background.Operation String).job .background .text
  | .bytesAvailable => Background.bytesAvailable.job .background .count
  | .close => Background.close.job .background fun _ => .nothing
  | .setReadTimeout timeout =>
    (Channel.setReadTimeout timeout : Background.Operation Unit).job .background fun _ => .nothing
  | .text => (Background.text : Background.Operation String).job .background .text

/-- What is asked of a handle as a stream of bytes. -/
inductive StreamOperation where
  | read (size : Nat)
  | readExact (size : Nat)
  | readToEnd
  | readLine
  | write (data : List UInt8)
  | writeAll (data : List UInt8)
  | flush

/-- The program of an operation on a stream. -/
def StreamOperation.job : StreamOperation → Job
  | .read size => (Stream.read size).job .stream .bytes
  | .readExact size => (Stream.readExact size).job .stream .bytes
  | .readToEnd => (Stream.readToEnd : Stream.Operation Stream.Collected).job .stream .collected
  | .readLine => (Stream.readLine : Stream.Operation Stream.Collected).job .stream .collected
  | .write data => (Stream.write data).job .stream .count
  | .writeAll data => (Stream.writeAll data).job .stream fun _ => .nothing
  | .flush => (Stream.ofChannel Channel.flush).job .stream fun _ => .nothing

/-- What is asked of a handle as a serial device. -/
inductive DeviceOperation where
  | name
  | baudRate
  | dataBits
  | flowControl
  | parity
  | stopBits
  | timeout
  | setBaudRate (rate : UInt32)
  | setDataBits (value : DataBits)
  | setFlowControl (value : FlowControl)
  | setParity (value : Parity)
  | setStopBits (value : StopBits)
  | setTimeout (timeout : Duration)
  | setRequestToSend (level : Bool)
  | setDataTerminalReady (level : Bool)
  | clearToSend
  | dataSetReady
  | ringIndicator
  | carrierDetect
  | bytesToRead
  | bytesToWrite
  | clear (buffer : Device.Buffer)
  | setBreak
  | clearBreak
  | text

namespace DeviceOperation

/-- A device operation that looks at a setting. -/
def setting (answer : PortSettings → Answer) : Job :=
  (Program.getSettings : Device.Operation PortSettings).job .device answer

/-- A device operation that answers nothing and cannot fail. -/
def silent (program : Device.Operation Unit) : Job :=
  program.job .device fun _ => .nothing

/-- The program of an operation on a serial device. -/
def job : DeviceOperation → Job
  | .name => (Channel.getAddress : Device.Operation (Option String)).job .device .maybeText
  | .baudRate => setting fun settings => .count settings.baudRate.toNat
  | .dataBits => setting fun settings => .text (Named.name settings.dataBits)
  | .flowControl => setting fun settings => .text (Named.name settings.flowControl)
  | .parity => setting fun settings => .text (Named.name settings.parity)
  | .stopBits => setting fun settings => .text (Named.name settings.stopBits)
  | .timeout => (Device.timeout : Device.Operation Duration).job .device .duration
  | .setBaudRate rate => silent (Device.setBaudRate rate)
  | .setDataBits value => silent (Channel.setDataBits value)
  | .setFlowControl value => silent (Channel.setFlowControl value)
  | .setParity value => silent (Channel.setParity value)
  | .setStopBits value => silent (Channel.setStopBits value)
  | .setTimeout duration => silent (Device.setTimeout duration)
  | .setRequestToSend level => silent (Channel.setRequestToSend level)
  | .setDataTerminalReady level => silent (Channel.setDataTerminalReady level)
  | .clearToSend => Device.clearToSend.job .device .flag
  | .dataSetReady => Device.dataSetReady.job .device .flag
  | .ringIndicator => (Channel.ringIndicator : Device.Operation Bool).job .device .flag
  | .carrierDetect => (Channel.carrierDetect : Device.Operation Bool).job .device .flag
  | .bytesToRead => Device.bytesToRead.job .device .count
  | .bytesToWrite => Device.bytesToWrite.job .device .count
  | .clear buffer => silent (Device.clear buffer)
  | .setBreak => silent (Channel.setBreak true)
  | .clearBreak => silent (Channel.setBreak false)
  | .text => (Device.text : Device.Operation String).job .device .text

end DeviceOperation

/-- What can be asked of a channel, through any of its ends. -/
inductive Operation where
  | channel (operation : ChannelOperation)
  | adapter (operation : AdapterOperation)
  | background (operation : BackgroundOperation)
  | stream (operation : StreamOperation)
  | device (operation : DeviceOperation)

/-- The program of an operation. -/
def Operation.job : Operation → Job
  | .channel operation => operation.job
  | .adapter operation => operation.job
  | .background operation => operation.job
  | .stream operation => operation.job
  | .device operation => operation.job

end Loopback
