import Loopback.Proofs.Channel.Order

/-!
# The kinds of operations

What each operation is about, through whatever end it is asked for, and that it keeps to that.
-/

namespace Loopback

open Program

variable {seen : List Deed}

/-- What an operation on the channel itself is about. -/
def ChannelOperation.kind : ChannelOperation → Kind
  | .openPort => .opening
  | .closePort => .closing
  | .setAddress _ => .moving
  | .write _ => .writing
  | .read _ | .readOne | .readAvailable _ => .reading
  | .resetInput | .resetOutput => .resetting
  | .applySettings _ | .setBaudRate _ | .setReadTimeout _ | .setWriteTimeout _ => .setting
  | .setDataBits _ | .setParity _ | .setStopBits _ | .setFlowControl _ => .setting
  | _ => .looking

/-- What an operation on a plain serial port is about. -/
def AdapterOperation.kind : AdapterOperation → Kind
  | .write _ => .writing
  | .read _ => .reading
  | .setReadTimeout _ => .setting
  | .clear => .resetting
  | .name | .bytesToRead | .bytesToWrite => .looking

/-- What an operation by way of background tasks is about. -/
def BackgroundOperation.kind : BackgroundOperation → Kind
  | .write _ => .writing
  | .read _ => .reading
  | .close => .closing
  | .setReadTimeout _ => .setting
  | .name | .bytesAvailable | .text => .looking

/-- What an operation on a stream is about. -/
def StreamOperation.kind : StreamOperation → Kind
  | .read _ | .readExact _ | .readToEnd | .readLine => .reading
  | .write _ | .writeAll _ => .writing
  | .flush => .looking

/-- What an operation on a serial device is about. -/
def DeviceOperation.kind : DeviceOperation → Kind
  | .setBaudRate _ | .setDataBits _ | .setFlowControl _ | .setParity _ | .setStopBits _ => .setting
  | .setTimeout _ => .setting
  | .clear _ => .resetting
  | _ => .looking

/-- What an operation is about. -/
def Operation.kind : Operation → Kind
  | .channel operation => operation.kind
  | .adapter operation => operation.kind
  | .background operation => operation.kind
  | .stream operation => operation.kind
  | .device operation => operation.kind

/-- Only four operations open or close the channel. -/
theorem Operation.plain_or (operation : Operation) :
    operation.kind.Plain ∨ operation = .channel .openPort ∨ operation = .channel .closePort ∨
      (∃ address, operation = .channel (.setAddress address)) ∨ operation = .background .close := by
  have hplain : ∀ {kind : Kind}, kind ≠ .opening → kind ≠ .closing → kind ≠ .moving → kind.Plain :=
    fun hopening hclosing hmoving => ⟨not_or.2 ⟨hopening, hmoving⟩, not_or.2 ⟨hclosing, hmoving⟩⟩
  cases operation with
  | channel operation =>
    cases operation with
    | openPort => exact .inr (.inl rfl)
    | closePort => exact .inr (.inr (.inl rfl))
    | setAddress address => exact .inr (.inr (.inr (.inl ⟨address, rfl⟩)))
    | _ => exact .inl (hplain nofun nofun nofun)
  | background operation =>
    cases operation with
    | close => exact .inr (.inr (.inr (.inr rfl)))
    | _ => exact .inl (hplain nofun nofun nofun)
  | adapter operation => cases operation <;> exact .inl (hplain nofun nofun nofun)
  | stream operation => cases operation <;> exact .inl (hplain nofun nofun nofun)
  | device operation => cases operation <;> exact .inl (hplain nofun nofun nofun)

namespace Channel

/-- Every operation of a channel keeps to what its kind may do. -/
theorem obeys_operation (operation : ChannelOperation) :
    operation.job.Obeys operation.kind.rule seen := by
  cases operation with
  | openPort => exact (obeys_openPort (.inl rfl)).job ..
  | closePort => exact (obeys_closePort (.inl rfl)).job ..
  | setAddress address => exact (obeys_setAddress address).job ..
  | write data => exact (obeys_write data).job ..
  | read size => exact (obeys_read size).job ..
  | readOne => exact obeys_readOne.job ..
  | readAvailable limit => exact (obeys_readAvailable limit).job ..
  | flush => exact obeys_flush.job ..
  | inWaiting => exact obeys_inWaiting.job ..
  | outWaiting => exact obeys_outWaiting.job ..
  | resetInput | resetOutput => exact (obeys_reset (.inl rfl) _).job ..
  | setLine line level => cases line <;> exact (obeys_setLine ..).job ..
  | clearToSend | dataSetReady => exact (obeys_lineLevel ..).job ..
  | ringIndicator | carrierDetect =>
    refine Obeys.job ?_ _ _
    exact obeys_look ⟨trivial, trivial⟩ fun _ _ => obeys_done
  | sendBreak duration => exact (obeys_sendBreak duration).job ..
  | applySettings settings => exact (obeys_applySettings settings).job ..
  | setBaudRate rate => exact (obeys_setBaudRate rate).job ..
  | setReadTimeout | setWriteTimeout | setDataBits | setParity | setStopBits | setFlowControl =>
    refine Obeys.job ?_ _ _
    exact obeys_changeSettings fun _ => rfl
  | status => exact obeys_status.job ..
  | text => exact obeys_text.job ..
  | isOpen | capacity | getLine | getAddress | getSettings | baudRate | readTimeout | writeTimeout
    | diagnostics => exact (obeys_perform ⟨trivial, trivial⟩).job ..

end Channel

namespace Adapter

/-- The name of an adapter is open to every operation. -/
theorem obeys_name {ε : Type} {kind : Kind} : (name : Program ε String).Obeys kind.rule seen :=
  obeys_look ⟨trivial, trivial⟩ fun _ _ => obeys_done

/-- Both buffers are emptied by resets. -/
theorem obeys_clearBuffers : clearBuffers.Obeys Kind.resetting.rule seen :=
  (Channel.obeys_reset (.inl rfl) _).bind fun _ _ => Channel.obeys_reset (.inl rfl) _

/-- Every operation of an adapter keeps to what its kind may do. -/
theorem obeys_operation (operation : AdapterOperation) :
    operation.job.Obeys operation.kind.rule seen := by
  cases operation with
  | write data => exact (Channel.obeys_write data).job ..
  | read size => exact (Channel.obeys_read size).job ..
  | name => exact obeys_name.job ..
  | setReadTimeout =>
    refine Obeys.job ?_ _ _
    exact Channel.obeys_changeSettings fun _ => rfl
  | clear => exact obeys_clearBuffers.job ..
  | bytesToRead => exact (Channel.obeys_counted Channel.obeys_inWaiting).job ..
  | bytesToWrite => exact (Channel.obeys_counted Channel.obeys_outWaiting).job ..

end Adapter

namespace Background

/-- A task of its own keeps to what its program keeps to. -/
theorem obeys_runTask {α : Type} {rule : Rule} {program : Channel.Operation α}
    (h : program.Obeys rule seen) : (runTask program).Obeys rule seen :=
  (h.mapFailure Failure.port).sheltered Failure.taskAborted

/-- Every operation of a background endpoint keeps to what its kind may do. -/
theorem obeys_operation (operation : BackgroundOperation) :
    operation.job.Obeys operation.kind.rule seen := by
  cases operation with
  | write data => exact (obeys_runTask (Channel.obeys_write data)).job ..
  | read size => exact (obeys_runTask (Channel.obeys_read size)).job ..
  | name => exact Adapter.obeys_name.job ..
  | bytesAvailable =>
    have hrequired : (required Adapter.bytesToRead).Obeys Kind.looking.rule seen :=
      (Channel.obeys_counted Channel.obeys_inWaiting).bind fun count _ => by
        cases count with
        | some => exact obeys_done
        | none => exact obeys_fail
    exact (obeys_runTask hrequired).job ..
  | close => exact (obeys_runTask (Channel.obeys_closePort (.inl rfl))).job ..
  | setReadTimeout =>
    refine Obeys.job ?_ _ _
    exact Channel.obeys_changeSettings fun _ => rfl
  | text => exact (Channel.obeys_text.bind fun _ _ => obeys_done).job ..

end Background

namespace Stream

/-- Every operation of a stream keeps to what its kind may do. -/
theorem obeys_operation (operation : StreamOperation) :
    operation.job.Obeys operation.kind.rule seen := by
  cases operation with
  | read size => exact (obeys_read size).job ..
  | readExact size => exact (obeys_readExactly size size []).job ..
  | readToEnd => exact (obeys_readChunks endless []).job ..
  | readLine => exact (obeys_readLineBuffers endless []).job ..
  | write data => exact ((Channel.obeys_write data).mapFailure _).job ..
  | writeAll data => exact (obeys_writeAll data).job ..
  | flush => exact (Channel.obeys_flush.mapFailure _).job ..

end Stream

namespace Device

/-- A count told in 32 bits is made as before. -/
theorem obeys_narrowed {rule : Rule} {count : Channel.Operation Nat} (h : count.Obeys rule seen) :
    (do
      let waiting ← ofChannel count
      pure (narrowed waiting) : Operation Nat).Obeys rule seen :=
  (h.mapFailure _).bind fun _ _ => obeys_done

/-- A buffer of a device is emptied by resets. -/
theorem obeys_clear (buffer : Buffer) : (clear buffer).Obeys Kind.resetting.rule seen := by
  cases buffer with
  | input | output => exact (Channel.obeys_reset (.inl rfl) _).mapFailure _
  | all =>
    exact ((Channel.obeys_reset (.inl rfl) _).mapFailure _).bind fun _ _ =>
      (Channel.obeys_reset (.inl rfl) _).mapFailure _

/-- Every operation of a device keeps to what its kind may do. -/
theorem obeys_operation (operation : DeviceOperation) :
    operation.job.Obeys operation.kind.rule seen := by
  cases operation with
  | name | baudRate | dataBits | flowControl | parity | stopBits =>
    exact (obeys_perform ⟨trivial, trivial⟩).job ..
  | timeout =>
    refine Obeys.job ?_ _ _
    exact obeys_look ⟨trivial, trivial⟩ fun _ _ => obeys_done
  | setBaudRate rate => exact ((Channel.obeys_setBaudRate rate).mapFailure _).job ..
  | setDataBits | setFlowControl | setParity | setStopBits | setTimeout =>
    refine Obeys.job ?_ _ _
    exact Channel.obeys_changeSettings fun _ => rfl
  | setRequestToSend | setDataTerminalReady | setBreak | clearBreak =>
    exact (Channel.obeys_setLine ..).job ..
  | clearToSend | dataSetReady => exact ((Channel.obeys_lineLevel ..).mapFailure _).job ..
  | ringIndicator | carrierDetect =>
    refine Obeys.job ?_ _ _
    exact obeys_look ⟨trivial, trivial⟩ fun _ _ => obeys_done
  | bytesToRead => exact (obeys_narrowed Channel.obeys_inWaiting).job ..
  | bytesToWrite => exact (obeys_narrowed Channel.obeys_outWaiting).job ..
  | clear buffer => exact (obeys_clear buffer).job ..
  | text => exact (Channel.obeys_text.bind fun _ _ => obeys_done).job ..

end Device

/-- Every operation keeps to what it is about, whatever was done before. -/
theorem Operation.obeys (operation : Operation) (seen : List Deed) :
    operation.job.Obeys operation.kind.rule seen := by
  cases operation with
  | channel operation => exact Channel.obeys_operation operation
  | adapter operation => exact Adapter.obeys_operation operation
  | background operation => exact Background.obeys_operation operation
  | stream operation => exact Stream.obeys_operation operation
  | device operation => exact Device.obeys_operation operation

end Loopback
