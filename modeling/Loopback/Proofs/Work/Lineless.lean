import Loopback.Proofs.Channel.Parts
import Loopback.Proofs.Work.Order

/-!
# Operations that leave the lines alone

Six operations set lines by themselves, and two lower lines as they open the channel. No other ever sets a line,
through whatever end it is asked for.
-/

namespace Loopback

/-- An action that sets no line. -/
def Action.Lineless (action : Action) : Prop := ∀ line level, action ≠ .setLine line level

/-- The operations that set a line by themselves. -/
def Operation.signals : Operation → Bool
  | .channel (.setLine ..) | .channel (.sendBreak _) => true
  | .device (.setRequestToSend _) | .device (.setDataTerminalReady _) | .device .setBreak | .device .clearBreak => true
  | _ => false

namespace Program

/-- To set no line goes by how programs are built. -/
theorem lineless_parts : Hereditary (fun p => p.Obeys (.always Action.Lineless) []) Action.Lineless :=
  hereditary_obeys fun hordinary _ _ heq => (heq ▸ hordinary : Action.Ordinary (.setLine _ _)).elim

end Program

open Program

namespace Channel

/-- The text of a channel is put together without setting a line. -/
theorem lineless_text {ε : Type} : (text : Program ε String).Obeys (.always Action.Lineless) [] :=
  lineless_parts.act nofun fun _ => lineless_parts.act nofun fun _ => lineless_parts.act nofun fun _ =>
    lineless_parts.act nofun fun _ => lineless_parts.done _

/-- A status is put together without setting a line. -/
theorem lineless_status {ε : Type} : (status : Program ε ChannelStatus).Obeys (.always Action.Lineless) [] := by
  refine lineless_parts.act nofun fun settings => lineless_parts.act nofun fun isOpen => ?_
  refine lineless_parts.act nofun fun address => lineless_parts.act nofun fun traits => ?_
  dsimp only [Program.bind]
  cases isOpen with
  | true =>
    refine lineless_parts.bind (lineless_parts.counted lineless_parts.inWaiting) fun _ => ?_
    refine lineless_parts.act nofun fun _ => lineless_parts.act nofun fun _ => lineless_parts.act nofun fun _ => ?_
    exact lineless_parts.act nofun fun _ => lineless_parts.done _
  | false =>
    refine lineless_parts.act nofun fun _ => lineless_parts.act nofun fun _ => lineless_parts.act nofun fun _ => ?_
    exact lineless_parts.act nofun fun _ => lineless_parts.done _

/-- An operation of a channel that neither opens, closes nor moves it sets a line only if it is there for that. -/
theorem lineless_operation {operation : ChannelOperation} (hplain : operation.kind.Plain)
    (hsignals : (Operation.channel operation).signals = false) :
    operation.job.Obeys (.always Action.Lineless) [] := by
  have hreconfigure := lineless_parts.reconfigure nofun
  cases operation with
  | openPort => exact absurd (.inl rfl) hplain.1
  | setAddress => exact absurd (.inr rfl) hplain.1
  | setLine | sendBreak => cases hsignals
  | closePort => exact lineless_parts.closePort.job ..
  | write data => exact (lineless_parts.write nofun data).job ..
  | read size => exact (lineless_parts.read nofun size).job ..
  | readOne => exact Obeys.job (lineless_parts.bind (lineless_parts.read nofun 1) fun _ => lineless_parts.done _) ..
  | readAvailable limit => exact (lineless_parts.readAvailable limit).job ..
  | flush => exact lineless_parts.flush.job ..
  | inWaiting => exact lineless_parts.inWaiting.job ..
  | outWaiting => exact lineless_parts.outWaiting.job ..
  | resetInput | resetOutput => exact (lineless_parts.reset _).job ..
  | clearToSend | dataSetReady => exact (lineless_parts.lineLevel ..).job ..
  | ringIndicator | carrierDetect => exact (lineless_parts.noted ..).job ..
  | applySettings | setBaudRate => exact Obeys.job (lineless_parts.checkedChange hreconfigure fun _ => nofun) ..
  | status => exact lineless_status.job ..
  | text => exact lineless_text.job ..
  | isOpen | capacity | getLine | getAddress | getSettings | baudRate | readTimeout | writeTimeout | setReadTimeout
    | setWriteTimeout | setDataBits | setParity | setStopBits | setFlowControl | diagnostics =>
    exact (obeys_perform nofun).job ..

end Channel

namespace Adapter

/-- The name of an adapter is told without setting a line. -/
theorem lineless_name {ε : Type} : (name : Program ε String).Obeys (.always Action.Lineless) [] :=
  lineless_parts.act nofun fun _ => lineless_parts.done _

/-- No operation of an adapter sets a line. -/
theorem lineless_operation (operation : AdapterOperation) : operation.job.Obeys (.always Action.Lineless) [] := by
  cases operation with
  | write data => exact (lineless_parts.write nofun data).job ..
  | read size => exact (lineless_parts.read nofun size).job ..
  | name => exact lineless_name.job ..
  | setReadTimeout => exact (obeys_perform nofun).job ..
  | clear => exact Obeys.job (lineless_parts.bind (lineless_parts.reset _) fun _ => lineless_parts.reset _) ..
  | bytesToRead => exact (lineless_parts.counted lineless_parts.inWaiting).job ..
  | bytesToWrite => exact (lineless_parts.counted lineless_parts.outWaiting).job ..

end Adapter

namespace Background

/-- No operation of a background endpoint sets a line. -/
theorem lineless_operation {operation : BackgroundOperation} :
    operation.job.Obeys (.always Action.Lineless) [] := by
  cases operation with
  | write data => exact (lineless_parts.runTask (lineless_parts.write nofun data)).job ..
  | read size => exact (lineless_parts.runTask (lineless_parts.read nofun size)).job ..
  | name => exact Adapter.lineless_name.job ..
  | bytesAvailable => exact lineless_parts.bytesAvailable.job ..
  | close => exact (lineless_parts.runTask lineless_parts.closePort).job ..
  | setReadTimeout => exact (obeys_perform nofun).job ..
  | text => exact Obeys.job (lineless_parts.bind Channel.lineless_text fun _ => lineless_parts.done _) ..

end Background

namespace Stream

/-- No operation of a stream sets a line. -/
theorem lineless_operation (operation : StreamOperation) : operation.job.Obeys (.always Action.Lineless) [] := by
  have hread := lineless_parts.read nofun 1
  cases operation with
  | read size => exact (lineless_parts.readStream hread size).job ..
  | readExact size => exact (lineless_parts.readExactly hread size size []).job ..
  | readToEnd => exact (lineless_parts.readChunks hread endless []).job ..
  | readLine => exact (lineless_parts.readLineBuffers hread endless []).job ..
  | write data => exact (lineless_parts.mapFailure _ (lineless_parts.write nofun data)).job ..
  | writeAll data => exact (lineless_parts.writeAll (lineless_parts.write nofun data)).job ..
  | flush => exact (lineless_parts.mapFailure _ lineless_parts.flush).job ..

end Stream

namespace Device

/-- An operation of a device sets a line only if it is there for that. -/
theorem lineless_operation {operation : DeviceOperation} (hsignals : (Operation.device operation).signals = false) :
    operation.job.Obeys (.always Action.Lineless) [] := by
  cases operation with
  | setRequestToSend | setDataTerminalReady | setBreak | clearBreak => cases hsignals
  | name | baudRate | dataBits | flowControl | parity | stopBits | setDataBits | setFlowControl | setParity
    | setStopBits | setTimeout => exact (obeys_perform nofun).job ..
  | timeout =>
    refine Obeys.job ?_ _ _
    exact lineless_parts.act nofun fun _ => lineless_parts.done _
  | setBaudRate =>
    exact Obeys.job (lineless_parts.mapFailure _
      (lineless_parts.checkedChange (lineless_parts.reconfigure nofun) fun _ => nofun)) ..
  | clearToSend | dataSetReady => exact (lineless_parts.mapFailure _ (lineless_parts.lineLevel ..)).job ..
  | ringIndicator | carrierDetect => exact (lineless_parts.noted ..).job ..
  | bytesToRead => exact (lineless_parts.narrowed lineless_parts.inWaiting).job ..
  | bytesToWrite => exact (lineless_parts.narrowed lineless_parts.outWaiting).job ..
  | clear buffer => exact (lineless_parts.clear buffer).job ..
  | text => exact Obeys.job (lineless_parts.bind Channel.lineless_text fun _ => lineless_parts.done _) ..

end Device

/-- An operation that neither opens nor closes the channel sets a line only if that is what it is for. -/
theorem Operation.lineless {operation : Operation} (hplain : operation.kind.Plain)
    (hsignals : operation.signals = false) : operation.job.Obeys (.always Action.Lineless) [] := by
  cases operation with
  | channel operation => exact Channel.lineless_operation hplain hsignals
  | adapter operation => exact Adapter.lineless_operation operation
  | background operation => exact Background.lineless_operation
  | stream operation => exact Stream.lineless_operation operation
  | device operation => exact Device.lineless_operation hsignals

end Loopback
