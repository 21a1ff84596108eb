import Loopback.Proofs.Work.Kind

/-!
# Operations in order

Each operation of a channel, and of a stream, keeps to what its kind may do: it asks for the session
right after it found the channel open, and goes to the queue of that session alone.
-/

namespace Loopback

namespace Channel

open Program

variable {ε α : Type} {kind : Kind} {seen : List Deed}

/-- To look whether the channel is open is open to every operation. -/
theorem obeys_ensureOpen : ensureOpen.Obeys kind.rule seen :=
  obeys_act.2 ⟨⟨trivial, trivial⟩, fun isOpen => by cases isOpen <;> exact nofun⟩

/-- Whatever follows goes by the session of the channel. -/
theorem obeys_liveSession {rest : Session → Operation α}
    (hrest : ∀ session more, holding more = some session → (rest session).Obeys kind.rule more) :
    (liveSession >>= rest).Obeys kind.rule seen := by
  refine obeys_act.2 ⟨⟨trivial, trivial⟩, fun isOpen => ?_⟩
  cases isOpen with
  | false => exact obeys_fail
  | true =>
    refine obeys_act.2 ⟨⟨trivial, by simp [orderly]⟩, fun current => ?_⟩
    cases current with
    | none => exact obeys_fail
    | some session => exact hrest session _ (holding_concat ..)

/-- To check the settings is open to every operation. -/
theorem obeys_reconfigure : reconfigure.Obeys kind.rule seen :=
  obeys_look ⟨trivial, trivial⟩ fun _ _ =>
    obeys_ofExcept.bind fun _ _ => obeys_perform ⟨trivial, trivial⟩

section data

/-- A byte is pushed in the session that the task goes by, and then the next one. -/
theorem obeys_pushAll {session : Session} {timeout : Option Duration} (data : List UInt8)
    (hheld : holding seen = some session) :
    (pushAll session timeout data).Obeys Kind.writing.rule seen := by
  induction data generalizing seen with
  | nil => exact obeys_done
  | cons byte rest ih =>
    refine obeys_first trivial trivial fun now more hmore => ?_
    have hheld : holding more = some session := hmore.trans hheld
    refine obeys_first ⟨rfl, nofun⟩ hheld fun accepted more hmore => ?_
    cases accepted with
    | true => exact ih (hmore.trans hheld)
    | false => exact obeys_fail

/-- A write asks for its session and its settings, and pushes in that session alone. -/
theorem obeys_write (data : List UInt8) : (write data).Obeys Kind.writing.rule seen := by
  refine obeys_liveSession fun session more hheld => ?_
  refine obeys_first trivial trivial fun settings more hmore => ?_
  have hheld : holding more = some session := hmore.trans hheld
  dsimp only [Program.bind]
  split
  next => exact obeys_abort
  next transmit _ =>
    have hqueueAll : Obeys Kind.writing.rule more (do
        pushAll session settings.writeTimeout data
        Program.note .debug (writtenNote data.length transmit)
        pure data.length) :=
      (obeys_pushAll data hheld).bind fun _ _ => obeys_look ⟨trivial, trivial⟩ fun _ _ => obeys_done
    split
    next timeout _ =>
      split
      · exact (obeys_sleep timeout).bind fun _ _ => obeys_fail
      · exact hqueueAll
    next => exact hqueueAll

/-- An element is taken in the session that the task goes by, and then the next one. -/
theorem obeys_takeWaiting {session : Session} {timeout : Option Duration}
    {deadline : Option Duration.Instant} (size : Nat) (taken : List UInt8)
    (hheld : holding seen = some session) :
    (takeWaiting session timeout deadline size taken).Obeys Kind.reading.rule seen := by
  induction size generalizing seen taken with
  | zero => exact obeys_done
  | succ left ih =>
    refine obeys_first trivial trivial fun isOpen more hmore => ?_
    have hheld : holding more = some session := hmore.trans hheld
    cases isOpen with
    | false => exact obeys_done
    | true =>
      refine obeys_first trivial trivial fun now more hmore => ?_
      have hheld : holding more = some session := hmore.trans hheld
      refine obeys_first rfl hheld fun item more hmore => ?_
      have hheld : holding more = some session := hmore.trans hheld
      match item with
      | none => exact obeys_done
      | some .endOfStream => exact obeys_done
      | some (.byte byte) =>
        cases deadline with
        | none => exact ih (byte :: taken) hheld
        | some instant =>
          refine obeys_first trivial trivial fun later more hmore => ?_
          dsimp only [Program.bind, pure_eq_done]
          split
          · exact obeys_done
          · exact ih (byte :: taken) (hmore.trans hheld)

/-- A read asks for its session and its settings, and takes from that session alone. -/
theorem obeys_read (size : Nat) : (read size).Obeys Kind.reading.rule seen := by
  refine obeys_liveSession fun session more hheld => ?_
  refine obeys_first trivial trivial fun settings more hmore => ?_
  have hheld : holding more = some session := hmore.trans hheld
  refine obeys_first trivial trivial fun now more hmore => ?_
  exact obeys_takeWaiting size [] (hmore.trans hheld)

/-- A read of one byte is one of the reads. -/
theorem obeys_readOne : readOne.Obeys Kind.reading.rule seen :=
  (obeys_read 1).bind fun _ _ => obeys_done

/-- Elements that are there are taken from the session that the task goes by. -/
theorem obeys_takeQueued {session : Session} (limit : Nat) (taken : List UInt8)
    (hheld : holding seen = some session) :
    (takeQueued session limit taken).Obeys Kind.reading.rule seen := by
  induction limit generalizing seen taken with
  | zero => exact obeys_done
  | succ left ih =>
    refine obeys_first trivial trivial fun now more hmore => ?_
    have hheld : holding more = some session := hmore.trans hheld
    refine obeys_first rfl hheld fun item more hmore => ?_
    match item with
    | none => exact obeys_done
    | some .endOfStream => exact obeys_done
    | some (.byte byte) => exact ih (byte :: taken) (hmore.trans hheld)

/-- A read of what is there takes from the session it asked for. -/
theorem obeys_readAvailable (limit : Nat) : (readAvailable limit).Obeys Kind.reading.rule seen :=
  obeys_liveSession fun _ _ hheld => obeys_takeQueued limit [] hheld

end data

section buffers

/-- To count the bytes that wait is open to every operation. -/
theorem obeys_inWaiting : inWaiting.Obeys kind.rule seen :=
  obeys_liveSession fun _ _ hheld => obeys_look ⟨trivial, hheld⟩ fun _ _ =>
    obeys_look ⟨trivial, trivial⟩ fun _ _ => obeys_done

/-- To count the bytes that wait to go out is open to every operation. -/
theorem obeys_outWaiting : outWaiting.Obeys kind.rule seen :=
  obeys_liveSession fun _ _ _ => obeys_done

/-- To flush is open to every operation. -/
theorem obeys_flush : flush.Obeys kind.rule seen :=
  obeys_liveSession fun _ _ _ => obeys_done

/-- Both resets drop what is queued in the session. -/
theorem obeys_reset (hkind : kind = .resetting ∨ kind.Opens) (message : String) :
    (do
      let session ← liveSession
      Program.note .info message
      let _ ← QueueCall.clear session
      pure () : Operation Unit).Obeys kind.rule seen :=
  obeys_liveSession fun _ _ hheld => obeys_first trivial trivial fun _ _ hmore =>
    obeys_look ⟨hkind, hmore.trans hheld⟩ fun _ _ => obeys_done

end buffers

section lines

variable (level : Bool)

/-- Setting a line and noting that is open to every operation. -/
theorem obeys_setLine (line : Line) (message : String) :
    (do
      .perform (.setLine line level)
      Program.note .info message : Program ε Unit).Obeys kind.rule seen :=
  obeys_look ⟨trivial, trivial⟩ fun _ _ => obeys_perform ⟨trivial, trivial⟩

/-- To send a break is open to every operation, as all lines are. -/
theorem obeys_sendBreak (duration : Duration) : (sendBreak duration).Obeys kind.rule seen :=
  obeys_ensureOpen.bind fun _ _ => (obeys_setLine ..).bind fun _ _ =>
    (obeys_sleep duration).bind fun _ _ => obeys_setLine ..

/-- Looking at a line of an open channel and noting its level is open to every operation. -/
theorem obeys_lineLevel (line : Line) (message : Bool → String) :
    (do
      ensureOpen
      let level ← Program.getLine line
      Program.note .info (message level)
      pure level : Operation Bool).Obeys kind.rule seen :=
  obeys_ensureOpen.bind fun _ _ => obeys_look ⟨trivial, trivial⟩ fun _ _ =>
    obeys_look ⟨trivial, trivial⟩ fun _ _ => obeys_done

end lines

section lifecycle

/-- Once a session has begun, the lines are set low and the buffers are emptied. -/
theorem obeys_afterOpening (hkind : kind = .resetting ∨ kind.Opens) (event : Event) :
    (do
      setDataTerminalReady false
      setRequestToSend false
      resetInput
      resetOutput
      .perform (.report event) : Operation Unit).Obeys kind.rule seen :=
  (obeys_setLine ..).bind fun _ _ => (obeys_setLine ..).bind fun _ _ =>
    (obeys_reset hkind _).bind fun _ _ => (obeys_reset hkind _).bind fun _ _ =>
      obeys_perform ⟨trivial, trivial⟩

/-- The channel is open only after its session has begun, and queues are emptied only then. -/
theorem obeys_openExclusively (hkind : kind.Opens) : openExclusively.Obeys kind.rule seen := by
  refine obeys_look ⟨trivial, trivial⟩ fun isOpen seen => ?_
  cases isOpen with
  | true => exact obeys_fail
  | false =>
    refine obeys_look ⟨hkind, trivial⟩ fun _ seen => obeys_look ⟨trivial, trivial⟩ fun address seen => ?_
    cases address with
    | none => exact obeys_fail
    | some text =>
      refine obeys_ofExcept.bind fun address seen => obeys_look ⟨hkind, trivial⟩ fun _ seen => ?_
      refine obeys_reconfigure.bind fun _ seen => obeys_look ⟨trivial, trivial⟩ fun traits seen => ?_
      dsimp only [Program.bind]
      split
      next =>
        have hbegun : orderly (seen ++ [⟨.newSession, ()⟩]) (.setOpen true) := List.getLast?_concat
        refine obeys_act.2 ⟨⟨hkind, trivial⟩, fun _ => obeys_look ⟨hkind, hbegun⟩ fun _ seen => ?_⟩
        exact obeys_afterOpening (.inr hkind) _
      next => exact obeys_abort

/-- An opening keeps its order between entering and leaving the lifecycle. -/
theorem obeys_openPort (hkind : kind.Opens) : openPort.Obeys kind.rule seen :=
  Obeys.exclusively (fun _ => obeys_openExclusively hkind) ⟨.inl hkind, trivial⟩
    fun _ => ⟨.inl hkind, trivial⟩

/-- Once the channel is closed, that is reported, and it rests for a while. -/
theorem obeys_afterClosing :
    (do
      Program.note .info "close()"
      let traits ← Program.getTraits
      .perform (.report (closedEvent traits.closeSettle))
      Program.sleep traits.closeSettle : Program ε Unit).Obeys kind.rule seen :=
  obeys_look ⟨trivial, trivial⟩ fun _ _ => obeys_look ⟨trivial, trivial⟩ fun _ _ =>
    obeys_look ⟨trivial, trivial⟩ fun _ _ => obeys_sleep _

/-- The mark of the end goes to the session that was found open. -/
theorem obeys_closeExclusively (hkind : kind.Closes) :
    (closeExclusively : Program ε Unit).Obeys kind.rule seen := by
  refine obeys_act.2 ⟨⟨trivial, trivial⟩, fun isOpen => ?_⟩
  cases isOpen with
  | false => exact obeys_done
  | true =>
    refine obeys_act.2 ⟨⟨trivial, List.getLast?_concat⟩, fun current => ?_⟩
    cases current with
    | none => exact obeys_look ⟨hkind, trivial⟩ fun _ _ => obeys_afterClosing
    | some session =>
      refine obeys_look ⟨⟨hkind, rfl⟩, holding_concat ..⟩ fun _ _ => ?_
      exact obeys_look ⟨hkind, trivial⟩ fun _ _ => obeys_afterClosing

/-- A closing keeps its order between entering and leaving the lifecycle. -/
theorem obeys_closePort (hkind : kind.Closes) : (closePort : Program ε Unit).Obeys kind.rule seen :=
  Obeys.exclusively (fun _ => obeys_closeExclusively hkind) ⟨.inr hkind, trivial⟩
    fun _ => ⟨.inr hkind, trivial⟩

/-- A move of the channel may close it, store the address and open it. -/
theorem obeys_setAddress (address : Option String) :
    (setAddress address).Obeys Kind.moving.rule seen := by
  refine obeys_look ⟨trivial, trivial⟩ fun wasOpen seen => ?_
  cases wasOpen with
  | true =>
    exact (obeys_closePort (.inr rfl)).bind fun _ _ => obeys_look ⟨rfl, trivial⟩ fun _ _ =>
      obeys_openPort (.inr rfl)
  | false => exact obeys_perform ⟨rfl, trivial⟩

end lifecycle

section status

/-- A baud rate that is accepted is not zero. -/
theorem ne_zero_of_checkBaudRate {rate : UInt32} {checked : UInt32}
    (h : checkBaudRate rate.toNat = .ok checked) : rate ≠ 0 ∧ checked = rate := by
  unfold checkBaudRate at h
  split at h
  next hrange =>
    cases h
    refine ⟨?_, UInt32.ofNat_toNat⟩
    rintro rfl
    exact absurd hrange.1 (Nat.lt_irrefl 0)
  next => cases h

/-- Other settings may be changed as long as the baud rate stays. -/
theorem obeys_changeSettings {change : PortSettings → PortSettings}
    (h : ∀ settings, (change settings).baudRate = settings.baudRate) :
    (changeSettings change : Program ε Unit).Obeys Kind.setting.rule seen :=
  obeys_perform ⟨⟨rfl, fun settings => by simp [h]⟩, trivial⟩

/-- A checked baud rate may be set, and is checked again while the channel is open. -/
theorem obeys_checkedChange {rate : UInt32} {change : UInt32 → PortSettings → PortSettings}
    (h : ∀ checked settings, checkBaudRate rate.toNat = .ok checked →
      (change checked settings).baudRate ≠ 0) :
    (do
      let checked ← Program.ofExcept (checkBaudRate rate.toNat)
      Program.changeSettings (change checked)
      if ← Program.getOpen then reconfigure else pure () : Operation Unit).Obeys Kind.setting.rule seen := by
  refine obeys_ofExcept_bind fun checked hchecked => ?_
  refine obeys_look ⟨⟨rfl, fun settings _ => h checked settings hchecked⟩, trivial⟩ fun _ _ => ?_
  refine obeys_look ⟨trivial, trivial⟩ fun isOpen _ => ?_
  cases isOpen with
  | true => exact obeys_reconfigure
  | false => exact obeys_done

/-- Settings are applied once their baud rate is accepted. -/
theorem obeys_applySettings (settings : PortSettings) :
    (applySettings settings).Obeys Kind.setting.rule seen :=
  obeys_checkedChange fun _ _ hchecked => (ne_zero_of_checkBaudRate hchecked).1

/-- A baud rate is set once it is accepted. -/
theorem obeys_setBaudRate (rate : UInt32) : (setBaudRate rate).Obeys Kind.setting.rule seen := by
  refine obeys_checkedChange fun checked _ hchecked => ?_
  obtain ⟨hne, rfl⟩ := ne_zero_of_checkBaudRate hchecked
  exact hne

/-- A count that failing leaves out keeps to what the count may do. -/
theorem obeys_counted {count : Operation Nat} (h : count.Obeys kind.rule seen) :
    (counted count : Program ε (Option Nat)).Obeys kind.rule seen :=
  h.attempt.bind fun result _ => by cases result <;> exact obeys_done

/-- A status is put together from looks that are open to every operation. -/
theorem obeys_status : (status : Program ε ChannelStatus).Obeys kind.rule seen := by
  refine obeys_look ⟨trivial, trivial⟩ fun settings _ => obeys_look ⟨trivial, trivial⟩ fun isOpen seen => ?_
  refine obeys_look ⟨trivial, trivial⟩ fun address _ => obeys_look ⟨trivial, trivial⟩ fun traits seen => ?_
  have hrest : ∀ more inWaiting, (do
      let requestToSend ← Program.getLine .requestToSend
      let dataTerminalReady ← Program.getLine .dataTerminalReady
      let breakCondition ← Program.getLine .breakCondition
      let diagnostics ← getDiagnostics
      pure {
        address, isOpen, inWaiting, requestToSend, dataTerminalReady, breakCondition, diagnostics
        capacity := traits.capacity
        baudRate := settings.baudRate
        readTimeoutMillis := settings.readTimeout.map Duration.saturatingMillis
        writeTimeoutMillis := settings.writeTimeout.map Duration.saturatingMillis } :
          Program ε ChannelStatus).Obeys kind.rule more := fun _ _ =>
    obeys_look ⟨trivial, trivial⟩ fun _ _ => obeys_look ⟨trivial, trivial⟩ fun _ _ =>
      obeys_look ⟨trivial, trivial⟩ fun _ _ => obeys_look ⟨trivial, trivial⟩ fun _ _ => obeys_done
  cases isOpen with
  | true => exact (obeys_counted obeys_inWaiting).bind fun inWaiting more => hrest more inWaiting
  | false => exact hrest seen none

/-- The text of a channel is put together from looks that are open to every operation. -/
theorem obeys_text : (text : Program ε String).Obeys kind.rule seen :=
  obeys_look ⟨trivial, trivial⟩ fun _ _ => obeys_look ⟨trivial, trivial⟩ fun _ _ =>
    obeys_look ⟨trivial, trivial⟩ fun _ _ => obeys_look ⟨trivial, trivial⟩ fun _ _ => obeys_done

end status

end Channel

namespace Stream

open Program

variable {ε : Type} {seen : List Deed}

/-- A stream is read by the reads of its channel. -/
theorem obeys_read (size : Nat) : (read size).Obeys Kind.reading.rule seen := by
  cases size with
  | zero => exact obeys_done
  | succ size =>
    refine ((Channel.obeys_read 1).mapFailure _).bind fun bytes _ => ?_
    match bytes with
    | byte :: _ =>
      exact ((Channel.obeys_readAvailable size).mapFailure _).bind fun _ _ => obeys_done
    | [] =>
      refine obeys_look ⟨trivial, trivial⟩ fun isOpen _ => ?_
      cases isOpen with
      | true => exact obeys_fail
      | false => exact obeys_done

/-- A stream is read until enough is there by the reads of its channel. -/
theorem obeys_readExactly (limit missing : Nat) (taken : List UInt8) :
    (readExactly limit missing taken).Obeys Kind.reading.rule seen := by
  induction limit generalizing missing taken seen with
  | zero => cases missing <;> exact nofun
  | succ limit ih =>
    cases missing with
    | zero => exact obeys_done
    | succ missing =>
      refine (obeys_read _).bind fun bytes _ => ?_
      match bytes with
      | [] => exact obeys_fail
      | _ :: _ => exact ih _ _

/-- A stream is read in chunks by the reads of its channel. -/
theorem obeys_readChunks (fuel : Nat) (taken : List (List UInt8)) :
    (readChunks fuel taken : Program ε Collected).Obeys Kind.reading.rule seen := by
  induction fuel generalizing taken seen with
  | zero => exact obeys_abort
  | succ fuel ih =>
    refine (obeys_read _).attempt.bind fun result _ => ?_
    match result with
    | .ok [] => exact obeys_done
    | .ok (_ :: _) => exact ih _
    | .error _ => exact obeys_done

/-- A stream is read up to the end of a line by the reads of its channel. -/
theorem obeys_readLineBuffers (fuel : Nat) (taken : List (List UInt8)) :
    (readLineBuffers fuel taken : Program ε Collected).Obeys Kind.reading.rule seen := by
  induction fuel generalizing taken seen with
  | zero => exact obeys_abort
  | succ fuel ih =>
    refine (obeys_read _).attempt.bind fun result _ => ?_
    match result with
    | .ok [] => exact obeys_done
    | .ok (_ :: _) =>
      dsimp only
      split
      · exact obeys_done
      · exact ih _
    | .error _ => exact obeys_done

/-- A stream is written by the writes of its channel. -/
theorem obeys_writeAll (data : List UInt8) : (writeAll data).Obeys Kind.writing.rule seen := by
  unfold writeAll
  split
  · exact obeys_done
  · refine ((Channel.obeys_write data).mapFailure _).bind fun count _ => ?_
    split
    · exact obeys_fail
    · exact obeys_done

end Stream

end Loopback
