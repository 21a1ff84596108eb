import Loopback.Proofs.Channel.Endless

/-!
# Endless timeouts block

A read or a write that is given no timeout, or one past the clock, waits until there is something to go on
with. So every operation goes on in step with itself at channels that differ at most in endless timeouts of
one side, and comes to the same answer unless it reports that timeout. Writes are only asked not to take
longer to send than the timeout, for these are refused. A device takes the greatest duration for no timeout,
and may always set the timeout that it reports.
-/

namespace Loopback

variable {ε α : Type} {t : Endless}

section

variable {fits : PortSettings → Prop} {known : Known} {agrees : α → α → Prop}

/-- A change that leaves the timeout alone is fair, and so is one that replaces it. -/
theorem fair_change {change : PortSettings → PortSettings}
    (hchange : ∀ settings timeout, change (settings.withTimeout t.side timeout) = change settings ∨
      change (settings.withTimeout t.side timeout) = (change settings).withTimeout t.side timeout ∧
        (change settings).timeout t.side = settings.timeout t.side) :
    (Action.changeSettings change).Fair t := by
  rintro settings settings' ⟨htimeout, rfl⟩
  rcases hchange settings t.timeout' with hsame | ⟨hchanged, hkept⟩
  · exact .inl hsame
  · exact .inr ⟨hkept.trans htimeout, hchanged⟩

/-- To set the timeout of reads leaves settings that differ, or makes them the same. -/
theorem fair_readTimeout (timeout : Option Duration) :
    (Action.changeSettings fun settings => { settings with readTimeout := timeout }).Fair t :=
  fair_change fun _ _ => by
    cases t.side
    · exact .inl rfl
    · exact .inr ⟨rfl, rfl⟩

/-- To set the timeout of writes leaves settings that differ, or makes them the same. -/
theorem fair_writeTimeout (timeout : Option Duration) :
    (Action.changeSettings fun settings => { settings with writeTimeout := timeout }).Fair t :=
  fair_change fun _ _ => by
    cases t.side
    · exact .inr ⟨rfl, rfl⟩
    · exact .inl rfl

namespace Channel

open Program

/-- Whatever follows goes by a session of the channel that has begun. -/
theorem instep_liveSession {rest rest' : Session → Operation α}
    (hrest : ∀ session later, known ≤ later → session < later.sessions →
      (rest session).InStep t fits agrees later (rest' session)) :
    (liveSession >>= rest).InStep t fits agrees known (liveSession >>= rest') := by
  refine instep_act trivial nofun fun isOpen later hlater => ?_
  cases isOpen with
  | false => exact .fail _
  | true =>
    refine .act trivial fun current current' last hanswers => ?_
    have hlast := Known.le_trans hlater hanswers.le
    cases current with
    | none =>
      obtain ⟨rfl, -⟩ := hanswers
      exact .fail _
    | some session =>
      obtain ⟨rfl, rfl⟩ := hanswers
      exact hrest session _ hlast (Nat.le_max_right _ _)

/-- Only the baud rate is checked. -/
theorem even_reconfigure : reconfigure.Even t fits := fun known =>
  instep_settings fun settings settings' later _ hgiven => by
    dsimp only [Program.bind]
    rw [hgiven.baudRate]
    exact (even_parts.ofExcept _).bind_instep fun _ _ _ => instep_act trivial nofun fun _ _ _ => .done rfl

/-- In a session that has begun, a byte that is pushed without a deadline is accepted in the end. -/
theorem instep_pushAll {session : Session} {timeout timeout' : Option Duration}
    (hlike : t.Like known timeout timeout') (hsession : session < known.sessions) (data : List UInt8) :
    (pushAll session timeout data).InStep t fits Eq known (pushAll session timeout' data) := by
  induction data generalizing known with
  | nil => exact .done rfl
  | cons byte rest ih =>
    refine .act trivial fun now now' later hanswers => ?_
    obtain ⟨rfl, hclock, rfl⟩ := hanswers
    dsimp only [Program.bind, Program.mapFailure]
    rw [hlike.deadline hclock]
    refine .act trivial fun answer answer' later hanswers => ?_
    have hlater := hanswers.le
    obtain rfl := hanswers.eq nofun
    cases answer' with
    | true => exact ih (hlike.mono hlater) (Nat.lt_of_lt_of_le hsession hlater.1)
    | false =>
      rcases hlike with rfl | ⟨rfl, rfl, hsince⟩
      · exact .fail _
      · rw [Duration.deadline?_eq_none_mono (Nat.le_trans hsince hclock) t.past] at hanswers
        cases hanswers.2.1 hsession

/-- A write goes on in step, if its data take no longer to send than either timeout. -/
theorem even_write {data : List UInt8} (hfits : ∀ settings, fits settings → t.InTime data settings) :
    (write data).Even t fits := fun known => by
  refine instep_liveSession fun session later _ hsession => ?_
  refine instep_settings fun settings settings' last hlast hgiven => ?_
  have hsession := Nat.lt_of_lt_of_le hsession hlast.1
  have hqueueAll : ∀ transmit, InStep t fits Eq last
      (do
        pushAll session settings.writeTimeout data
        Program.note .debug (writtenNote data.length transmit)
        pure data.length : Operation Nat)
      (do
        pushAll session settings'.writeTimeout data
        Program.note .debug (writtenNote data.length transmit)
        pure data.length) := fun transmit =>
    (instep_pushAll (hgiven.like .writing) hsession data).bind fun _ _ _ _ _ =>
      instep_act trivial nofun fun _ _ _ => .done rfl
  dsimp only [Program.bind]
  have htransmit : settings'.transmitDuration? data.length = settings.transmitDuration? data.length :=
    congrArg (transmitDuration? · data.length) hgiven.baudRate
  rw [htransmit]
  split
  next => exact .abort _
  next transmit hduration =>
    -- Where the timeouts differ, both are those that the payload is sent within.
    have htimeouts : settings'.writeTimeout = settings.writeTimeout ∨
        ∀ limit, settings.writeTimeout = some limit ∨ settings'.writeTimeout = some limit →
          ¬limit.nanos < transmit.nanos := by
      rcases hgiven with rfl | ⟨⟨htimeout, rfl⟩, hfit, -⟩
      · exact .inl rfl
      · cases hside : t.side with
        | reading => exact .inl rfl
        | writing =>
          rw [hside] at htimeout
          have hlimits := hfits settings hfit hside transmit hduration
          rw [← htimeout] at hlimits
          exact .inr fun limit hlimit => Nat.not_lt.2 (hlimits limit hlimit)
    have hqueueAll := hqueueAll transmit
    generalize settings.writeTimeout = timeout, settings'.writeTimeout = timeout' at hqueueAll htimeouts ⊢
    rcases htimeouts with rfl | hlimits
    · cases timeout' with
      | none => exact hqueueAll
      | some limit =>
        dsimp only
        split
        · exact (even_parts.sleep limit).bind_instep fun _ _ _ => .fail _
        · exact hqueueAll
    · cases timeout with
      | none =>
        cases timeout' with
        | none => exact hqueueAll
        | some limit' =>
          dsimp only
          rwa [if_neg (hlimits limit' (.inr rfl))]
      | some limit =>
        dsimp only
        rw [if_neg (hlimits limit (.inl rfl))]
        cases timeout' with
        | none => exact hqueueAll
        | some limit' =>
          dsimp only
          rwa [if_neg (hlimits limit' (.inr rfl))]

/-- A read goes on in step with one whose deadlines are the same, or both endless. -/
theorem instep_takeWaiting {session : Session} {timeout timeout' : Option Duration}
    (hlike : t.Like known timeout timeout') (deadline : Option Duration.Instant) (size : Nat)
    (taken : List UInt8) :
    (takeWaiting session timeout deadline size taken).InStep t fits Eq known
      (takeWaiting session timeout' deadline size taken) := by
  induction size generalizing known taken with
  | zero => exact .done rfl
  | succ left ih =>
    refine instep_act trivial nofun fun isOpen later hlater => ?_
    have hlike := hlike.mono hlater
    cases isOpen with
    | false => exact .done rfl
    | true =>
      refine .act trivial fun now now' later hanswers => ?_
      obtain ⟨rfl, hclock, rfl⟩ := hanswers
      dsimp only [Program.bind]
      rw [hlike.deadline hclock]
      refine instep_act trivial nofun fun item later hlater => ?_
      have hlike := hlike.mono hlater
      match item with
      | none => exact .done rfl
      | some .endOfStream => exact .done rfl
      | some (.byte byte) =>
        cases deadline with
        | none => exact ih hlike (byte :: taken)
        | some instant =>
          refine instep_act trivial nofun fun now last hlast => ?_
          dsimp only [Program.bind, pure_eq_done]
          split
          · exact .done rfl
          · exact ih (hlike.mono hlast) (byte :: taken)

/-- A read goes on in step with itself. -/
theorem even_read (size : Nat) : (read size).Even t fits := fun known => by
  refine instep_liveSession fun session later _ _ => instep_settings fun settings settings' later _ hgiven => ?_
  have hlike := hgiven.like .reading
  refine .act trivial fun now now' last hanswers => ?_
  obtain ⟨rfl, hclock, rfl⟩ := hanswers
  dsimp only [Program.bind]
  rw [show Duration.deadline? now' settings'.readTimeout = Duration.deadline? now' settings.readTimeout from
    hlike.deadline hclock]
  exact instep_takeWaiting hlike _ size []

/-- An opening goes on in step with itself. -/
theorem even_openPort : openPort.Even t fits :=
  even_parts.openPort even_reconfigure ⟨trivial, nofun⟩ ⟨trivial, nofun⟩ (fun _ => ⟨trivial, nofun⟩)
    fun _ => ⟨trivial, nofun⟩

/-- A moving goes on in step with itself. -/
theorem even_setAddress (address : Option String) : (setAddress address).Even t fits :=
  even_parts.setAddress even_reconfigure ⟨trivial, nofun⟩ ⟨trivial, nofun⟩ (fun _ => ⟨trivial, nofun⟩)
    (fun _ => ⟨trivial, nofun⟩) ⟨trivial, nofun⟩

/-- A status may tell of the timeout. -/
theorem instep_status : (status : Program ε ChannelStatus).InStep t fits (fun _ _ => True) known status := by
  refine instep_settings fun settings settings' _ _ _ => instep_act trivial nofun fun isOpen _ _ => ?_
  refine instep_act trivial nofun fun address _ _ => instep_act trivial nofun fun traits _ _ => ?_
  dsimp only [Program.bind]
  cases isOpen with
  | true =>
    refine (even_parts.counted even_parts.inWaiting).bind_instep fun _ _ _ => ?_
    refine instep_act trivial nofun fun _ _ _ => instep_act trivial nofun fun _ _ _ => ?_
    exact instep_act trivial nofun fun _ _ _ => instep_act trivial nofun fun _ _ _ => .done trivial
  | false =>
    refine instep_act trivial nofun fun _ _ _ => instep_act trivial nofun fun _ _ _ => ?_
    exact instep_act trivial nofun fun _ _ _ => instep_act trivial nofun fun _ _ _ => .done trivial

/-- The channel may be shown with the timeout. -/
theorem instep_text : (text : Program ε String).InStep t fits (fun _ _ => True) known text :=
  instep_act trivial nofun fun _ _ _ => instep_act trivial nofun fun _ _ _ =>
    instep_act trivial nofun fun _ _ _ => instep_settings fun _ _ _ _ _ => .done trivial

end Channel

/-- Whether an operation on the channel itself tells of the timeout of a side. -/
def ChannelOperation.Reports : Side → ChannelOperation → Prop
  | _, .getSettings | _, .status | _, .text => True
  | .reading, .readTimeout | .writing, .writeTimeout => True
  | _, _ => False

/-- Whether an operation by way of background tasks tells of the timeouts. -/
def BackgroundOperation.Reports : BackgroundOperation → Prop
  | .text => True
  | _ => False

/-- Whether an operation on a serial device tells of the timeout of a side. -/
def DeviceOperation.Reports : Side → DeviceOperation → Prop
  | _, .text | .reading, .timeout => True
  | _, _ => False

/-- Whether an operation tells of the timeout of a side. -/
def Operation.Reports (side : Side) : Operation → Prop
  | .channel operation => operation.Reports side
  | .adapter _ | .stream _ => False
  | .background operation => operation.Reports
  | .device operation => operation.Reports side

/-- The data that an operation is to write, if it is to write any. -/
def Operation.payload? : Operation → Option (List UInt8)
  | .channel (.write data) | .adapter (.write data) | .background (.write data) => some data
  | .stream (.write data) | .stream (.writeAll data) => some data
  | _ => none

namespace Endless

/-- Whether settings let an operation write in time what it is to write. -/
def Fits (t : Endless) (operation : Operation) (settings : PortSettings) : Prop :=
  ∀ data, operation.payload? = some data → t.InTime data settings

/-- Answers to an operation, which are the same unless it reports the timeout. -/
def Agree (t : Endless) (operation : Operation) (answer answer' : Answer) : Prop :=
  operation.Reports t.side ∨ answer = answer'

end Endless

namespace Program

/-- A job comes to answers that agree where its program comes to such results. -/
theorem InStep.job {agree : Answer → Answer → Prop} {p p' : Program ε α} (h : p.InStep t fits agrees known p')
    (failure : ε → Failure) {answer : α → Answer}
    (hanswer : ∀ result result', agrees result result' → agree (answer result) (answer result')) :
    (p.job failure answer).InStep t fits agree known (p'.job failure answer) :=
  (h.mapFailure failure).bind fun result result' _ hresult _ => .done (hanswer result result' hresult)

/-- A job that goes on evenly comes to the same answer. -/
theorem Even.job {p : Program ε α} (h : p.Even t fits) (operation : Operation) (failure : ε → Failure)
    (answer : α → Answer) :
    (p.job failure answer).InStep t fits (t.Agree operation) known (p.job failure answer) :=
  (h known).job failure fun _ _ hresult => .inr (congrArg answer hresult)

/-- A job that looks at the settings comes to the same answer, unless it tells of the timeout. -/
theorem instep_setting (operation : Operation) (failure : ε → Failure) (answer : PortSettings → Answer)
    (hanswer : operation.Reports t.side ∨
      ∀ settings timeout, answer (settings.withTimeout t.side timeout) = answer settings) :
    ((getSettings : Program ε PortSettings).job failure answer).InStep t fits (t.Agree operation) known
      ((getSettings : Program ε PortSettings).job failure answer) :=
  instep_settings fun settings settings' _ _ hgiven => .done <| hanswer.imp_right fun hsame => by
    rcases hgiven with rfl | ⟨⟨-, rfl⟩, -⟩
    · rfl
    · exact (hsame settings t.timeout').symm

end Program

namespace Channel

open Program

/-- Every operation of a channel goes on in step with itself, but for the timeout it may tell. -/
theorem instep_operation (operation : ChannelOperation) :
    operation.job.InStep t (t.Fits (.channel operation)) (t.Agree (.channel operation)) known operation.job := by
  cases operation with
  | openPort => exact even_openPort.job ..
  | closePort => exact even_parts.closePort.job ..
  | write data => exact (even_write fun settings hfits => hfits data rfl).job ..
  | read size => exact (even_read size).job ..
  | readOne => exact (even_parts.bind (even_read 1) fun _ => even_parts.done _).job ..
  | readAvailable limit => exact (even_parts.readAvailable limit).job ..
  | flush => exact even_parts.flush.job ..
  | inWaiting => exact even_parts.inWaiting.job ..
  | outWaiting => exact even_parts.outWaiting.job ..
  | resetInput | resetOutput => exact (even_parts.reset _).job ..
  | setLine line level => cases line <;> exact (even_parts.setLine ⟨trivial, nofun⟩ _).job ..
  | clearToSend | dataSetReady => exact (even_parts.lineLevel _ _).job ..
  | ringIndicator | carrierDetect => exact (even_parts.noted _ _).job ..
  | sendBreak duration => exact (even_parts.sendBreak (fun _ => ⟨trivial, nofun⟩) duration).job ..
  | setAddress address => exact (even_setAddress address).job ..
  | isOpen | capacity | getLine | getAddress | diagnostics =>
    exact Even.job (even_parts.perform (by exact ⟨trivial, nofun⟩)) ..
  | applySettings settings =>
    exact Even.job (even_parts.checkedChange even_reconfigure fun _ =>
      ⟨fair_change fun _ _ => .inl rfl, nofun⟩) ..
  | setBaudRate rate =>
    refine Even.job (even_parts.checkedChange even_reconfigure fun _ => ⟨fair_change fun _ _ => .inr ?_, nofun⟩) ..
    cases t.side <;> exact ⟨rfl, rfl⟩
  | setDataBits | setParity | setStopBits | setFlowControl =>
    refine Even.job (even_parts.perform ⟨fair_change fun _ _ => .inr ?_, nofun⟩) ..
    cases t.side <;> exact ⟨rfl, rfl⟩
  | setReadTimeout timeout => exact Even.job (even_parts.perform ⟨fair_readTimeout timeout, nofun⟩) ..
  | setWriteTimeout timeout => exact Even.job (even_parts.perform ⟨fair_writeTimeout timeout, nofun⟩) ..
  | getSettings => exact instep_setting _ _ _ (.inl trivial)
  | baudRate =>
    refine instep_setting _ _ _ (.inr fun _ _ => ?_)
    cases t.side <;> rfl
  | readTimeout =>
    refine instep_setting _ _ _ ?_
    simp only [Operation.Reports]
    cases t.side
    · exact .inl trivial
    · exact .inr fun _ _ => rfl
  | writeTimeout =>
    refine instep_setting _ _ _ ?_
    simp only [Operation.Reports]
    cases t.side
    · exact .inr fun _ _ => rfl
    · exact .inl trivial
  | status => exact instep_status.job _ fun _ _ _ => .inl trivial
  | text => exact instep_text.job _ fun _ _ _ => .inl trivial

end Channel

namespace Adapter

open Program

/-- The name of an adapter goes on in step with itself. -/
theorem even_name : (name : Program ε String).Even t fits := fun _ =>
  instep_act trivial nofun fun _ _ _ => .done rfl

/-- Every operation of an adapter goes on in step with itself, but for the timeout it may tell. -/
theorem instep_operation (operation : AdapterOperation) :
    operation.job.InStep t (t.Fits (.adapter operation)) (t.Agree (.adapter operation)) known operation.job := by
  cases operation with
  | write data => exact (Channel.even_write fun settings hfits => hfits data rfl).job ..
  | read size => exact (Channel.even_read size).job ..
  | name => exact even_name.job ..
  | setReadTimeout timeout => exact Even.job (even_parts.perform ⟨fair_readTimeout timeout, nofun⟩) ..
  | clear => exact (even_parts.bind (even_parts.reset _) fun _ => even_parts.reset _).job ..
  | bytesToRead => exact (even_parts.counted even_parts.inWaiting).job ..
  | bytesToWrite => exact (even_parts.counted even_parts.outWaiting).job ..

end Adapter

namespace Background

open Program

/-- Every operation of a background endpoint goes on in step with itself, but for the timeouts it may tell. -/
theorem instep_operation (operation : BackgroundOperation) :
    operation.job.InStep t (t.Fits (.background operation)) (t.Agree (.background operation)) known
      operation.job := by
  cases operation with
  | write data => exact (even_parts.runTask (Channel.even_write fun settings hfits => hfits data rfl)).job ..
  | read size => exact (even_parts.runTask (Channel.even_read size)).job ..
  | name => exact Adapter.even_name.job ..
  | bytesAvailable => exact even_parts.bytesAvailable.job ..
  | close => exact (even_parts.runTask even_parts.closePort).job ..
  | setReadTimeout timeout => exact Even.job (even_parts.perform ⟨fair_readTimeout timeout, nofun⟩) ..
  | text =>
    have htext : (text : Background.Operation String).InStep t (t.Fits (.background .text)) (fun _ _ => True)
        known text := Channel.instep_text.bind fun _ _ _ _ _ => .done trivial
    exact htext.job _ fun _ _ _ => .inl trivial

end Background

namespace Stream

open Program

/-- Every operation of a stream goes on in step with itself, but for the timeout it may tell. -/
theorem instep_operation (operation : StreamOperation) :
    operation.job.InStep t (t.Fits (.stream operation)) (t.Agree (.stream operation)) known operation.job := by
  have hread : ∀ {fits}, (Channel.read 1).Even t fits := Channel.even_read 1
  cases operation with
  | read size => exact (even_parts.readStream hread size).job ..
  | readExact size => exact (even_parts.readExactly hread size size []).job ..
  | readToEnd => exact (even_parts.readChunks hread endless []).job ..
  | readLine => exact (even_parts.readLineBuffers hread endless []).job ..
  | write data =>
    exact (even_parts.mapFailure _ (Channel.even_write fun settings hfits => hfits data rfl)).job ..
  | writeAll data => exact (even_parts.writeAll (Channel.even_write fun settings hfits => hfits data rfl)).job ..
  | flush => exact (even_parts.mapFailure _ even_parts.flush).job ..

end Stream

namespace Device

open Program

/-- Every operation of a device goes on in step with itself, but for the timeout it may tell. -/
theorem instep_operation (operation : DeviceOperation) :
    operation.job.InStep t (t.Fits (.device operation)) (t.Agree (.device operation)) known operation.job := by
  cases operation with
  | name => exact Even.job (even_parts.perform (by exact ⟨trivial, nofun⟩)) ..
  | baudRate | dataBits | flowControl | parity | stopBits =>
    refine instep_setting _ _ _ (.inr fun _ _ => ?_)
    cases t.side <;> rfl
  | timeout =>
    have htimeout : (timeout : Device.Operation Duration).InStep t (t.Fits (.device .timeout))
        (fun answer answer' => t.side = .reading ∨ answer = answer') known timeout := by
      refine instep_settings fun settings settings' _ _ hgiven => .done ?_
      rcases hgiven with rfl | ⟨⟨-, rfl⟩, -⟩
      · exact .inr rfl
      · cases t.side
        · exact .inl rfl
        · exact .inr rfl
    refine htimeout.job _ fun _ _ hanswer => hanswer.imp (fun hside => ?_) (congrArg _)
    rw [hside]
    trivial
  | setBaudRate rate =>
    refine Even.job (even_parts.mapFailure _ (even_parts.checkedChange Channel.even_reconfigure fun _ =>
      ⟨fair_change fun _ _ => .inr ?_, nofun⟩)) ..
    cases t.side <;> exact ⟨rfl, rfl⟩
  | setDataBits | setFlowControl | setParity | setStopBits =>
    refine Even.job (even_parts.perform ⟨fair_change fun _ _ => .inr ?_, nofun⟩) ..
    cases t.side <;> exact ⟨rfl, rfl⟩
  | setTimeout => exact Even.job (even_parts.perform ⟨fair_readTimeout _, nofun⟩) ..
  | setRequestToSend | setDataTerminalReady | setBreak | clearBreak =>
    exact (even_parts.setLine ⟨trivial, nofun⟩ _).job ..
  | clearToSend | dataSetReady => exact (even_parts.mapFailure _ (even_parts.lineLevel _ _)).job ..
  | ringIndicator | carrierDetect => exact (even_parts.noted _ _).job ..
  | bytesToRead => exact (even_parts.narrowed even_parts.inWaiting).job ..
  | bytesToWrite => exact (even_parts.narrowed even_parts.outWaiting).job ..
  | clear buffer => exact (even_parts.clear buffer).job ..
  | text =>
    have htext : (text : Device.Operation String).InStep t (t.Fits (.device .text)) (fun _ _ => True)
        known text := Channel.instep_text.bind fun _ _ _ _ _ => .done trivial
    exact htext.job _ fun _ _ _ => .inl trivial

end Device

/-- Every operation goes on in step with itself, and comes to the same answer unless it tells of the timeout. -/
theorem Operation.instep (operation : Operation) :
    operation.job.InStep t (t.Fits operation) (t.Agree operation) known operation.job := by
  cases operation with
  | channel operation => exact Channel.instep_operation operation
  | adapter operation => exact Adapter.instep_operation operation
  | background operation => exact Background.instep_operation operation
  | stream operation => exact Stream.instep_operation operation
  | device operation => exact Device.instep_operation operation

end

namespace Machine

/-- The machine with another timeout of a side. -/
def timed (m : Machine ε α) (side : Side) (timeout : Option Duration) : Machine ε α :=
  let settings := m.world.channel.settings.withTimeout side timeout
  { m with world := m.world.withChannel { m.world.channel with settings } }

/-- Where a task sleeps, if it does: with which ticket, and in which action. -/
def restOf? (m : Machine ε α) (task : Nat) : Option (Nat × Action) :=
  match m.tasks[task]? with
  | some (.asleep ticket action _) => some (ticket, action)
  | _ => none

/-- Two machines that have worked alike: but for a timeout, their channels are the same, with all that is
queued, and so are the clock, all that was reported, where each task sleeps, and all answers that do not tell
of the timeout. -/
structure AgreeBut (side : Side) (operations : List Operation) (m m' : Machine Failure Answer) : Prop where
  channel : m'.world.channel = { m.world.channel with settings := m'.world.channel.settings }
  settings : m'.world.channel.settings.withTimeout side none = m.world.channel.settings.withTimeout side none
  now : m'.world.now = m.world.now
  journal : m'.world.journal = m.world.journal
  rests : ∀ task, m'.restOf? task = m.restOf? task
  ended : ∀ task, (m'.outcomeOf? task).isSome = (m.outcomeOf? task).isSome
  answers : ∀ task operation, operations[task]? = some operation → ¬operation.Reports side →
    m'.outcomeOf? task = m.outcomeOf? task

/-- All moves that one machine makes can be made by another, which then has worked alike. The turns may have
to be of a certain sort. -/
def Follows (side : Side) (operations : List Operation) (sort : List Turn → Prop)
    (m m' : Machine Failure Answer) : Prop :=
  ∀ moves turns n, Run m moves turns n → sort turns →
    ∃ turns' n', Run m' moves turns' n' ∧ AgreeBut side operations n n'

end Machine

namespace Endless

/-- No write is given settings under which its data take longer to send than a timeout. -/
def Heeded (t : Endless) (operations : List Operation) (turns : List Turn) : Prop :=
  ∀ turn ∈ turns, turn.deed.action = .getSettings → ∀ operation, operations[turn.task]? = some operation →
    t.Fits operation turn.before.channel.settings

/-- Settings that let a task write in time what one of certain operations is to write. -/
def fits (t : Endless) (operations : List Operation) (task : Nat) : PortSettings → Prop :=
  match operations[task]? with
  | some operation => t.Fits operation
  | none => fun _ => True

/-- When answers of a task that carries out one of certain operations agree. -/
def agrees (t : Endless) (operations : List Operation) (task : Nat) : Answer → Answer → Prop :=
  match operations[task]? with
  | some operation => t.Agree operation
  | none => Eq

end Endless

namespace Endless

/-- Channels that share certain operations and differ at most in the endless timeouts. -/
def shared (t : Endless) (operations : List Operation) : Coupling Failure Answer :=
  t.coupling (t.fits operations) (t.agrees operations)

variable {operations : List Operation} {m m' : Machine Failure Answer}

/-- Whatever operations share a channel, it stays in step with itself. -/
theorem couples_self {builder : Builder} {moves : List Move} {turns : List Turn} (t : Endless)
    (hrun : Machine.Run (Machine.sharing builder operations) moves turns m) :
    (t.shared operations).Couples m m := by
  refine hrun.couples_self ⟨.mk (.inl rfl), fun task => ?_, rfl⟩ fun _ _ _ _ => .inl rfl
  simp only [Machine.sharing, Machine.ofPrograms, List.getElem?_map]
  cases hoperation : operations[task]? with
  | none => exact .none
  | some operation =>
    refine .some (.running ?_)
    change Program.InStep t (t.fits operations task) (t.agrees operations task) _ _ _
    simp only [fits, agrees, hoperation]
    exact operation.instep

/-- A machine that is in step with itself is so at two endless timeouts, once these are past the clock. -/
theorem couples_timed (h : (t.shared operations).Couples m m) (hsince : t.since ≤ m.world.now) :
    (t.shared operations).Couples (m.timed t.side t.timeout) (m.timed t.side t.timeout') where
  world := by
    refine @Worlds.mk t (m.timed t.side t.timeout).world.channel _ m.world.now m.world.journal
      (.inr ⟨⟨?_, ?_⟩, hsince⟩)
    · cases t.side <;> rfl
    · simp only [Machine.timed, World.withChannel]
      cases t.side <;> rfl
  tasks := h.tasks
  tickets := rfl

/-- Machines that differ at most in endless timeouts have worked alike. -/
theorem agreeBut (h : (t.shared operations).Couples m m') : m.AgreeBut t.side operations m' where
  channel := Worlds.channel_eq h.world
  settings := Worlds.settings_eq h.world
  now := Worlds.now_eq h.world
  journal := Worlds.journal_eq h.world
  rests task := by
    obtain ⟨hnone, hnone'⟩ | ⟨state, state', htask, htask', hcoupled⟩ := h.cases task
    · simp only [Machine.restOf?, hnone, hnone']
    · simp only [Machine.restOf?, htask, htask']
      cases hcoupled with
      | asleep ticket hpost hdeadline hprogram => cases hprogram; rfl
      | _ => rfl
  ended task := by
    obtain ⟨hnone, hnone'⟩ | ⟨state, state', htask, htask', hcoupled⟩ := h.cases task
    · simp only [Machine.outcomeOf?, hnone, hnone']
    · simp only [Machine.outcomeOf?, htask, htask']
      cases hcoupled with
      | running hprogram => cases hprogram <;> rfl
      | _ => rfl
  answers task operation hoperation hsilent := by
    obtain ⟨hnone, hnone'⟩ | ⟨state, state', htask, htask', hcoupled⟩ := h.cases task
    · simp only [Machine.outcomeOf?, hnone, hnone']
    · simp only [Machine.outcomeOf?, htask, htask']
      cases hcoupled with
      | running hprogram =>
        cases hprogram with
        | done hagree =>
          simp only [agrees, hoperation] at hagree
          rw [hagree.resolve_left hsilent]
        | _ => rfl
      | _ => rfl

/-- At endless timeouts that are past the clock a machine makes the same moves, and works alike. -/
theorem follows (h : (t.shared operations).Couples m m') :
    Machine.Follows t.side operations (t.Heeded operations) m m' := by
  intro moves turns n hrun hheeded
  obtain ⟨turns', n', hrun', hcouples⟩ := hrun.couples h fun turn hturn w' _ haction => by
    refine .inr ?_
    simp only [fits]
    cases hoperation : operations[turn.task]? with
    | none => trivial
    | some operation => exact hheeded turn hturn haction operation hoperation
  exact ⟨turns', n', hrun', agreeBut hcouples⟩

end Endless

namespace Machine

variable {builder : Builder} {operations : List Operation} {m m' : Machine Failure Answer} {moves : List Move}
  {turns : List Turn}

/-- A machine works like itself. -/
theorem Follows.refl (side : Side) (operations : List Operation) (sort : List Turn → Prop)
    (m : Machine Failure Answer) : Follows side operations sort m m := fun _ turns n hrun _ =>
  ⟨turns, n, hrun, rfl, rfl, rfl, rfl, fun _ => rfl, fun _ => rfl, fun _ _ _ _ => rfl⟩

/-- At a timeout for reads the turns need not be of any sort. -/
theorem Follows.reading {t : Endless} (hside : t.side = .reading)
    (h : Follows t.side operations (t.Heeded operations) m m') :
    Follows .reading operations (fun _ => True) m m' := fun _ _ _ hrun _ => by
  rw [← hside]
  refine h _ _ _ hrun fun _ _ _ _ _ _ _ hwriting => ?_
  rw [hside] at hwriting
  cases hwriting

/-- At two endless timeouts that are past the clock a machine that was reached works alike. -/
theorem Run.follows (hrun : Run (sharing builder operations) moves turns m) (t : Endless)
    (hsince : t.since ≤ m.world.now) : Follows t.side operations (t.Heeded operations)
      (m.timed t.side t.timeout) (m.timed t.side t.timeout') :=
  Endless.follows (Endless.couples_timed (t.couples_self hrun) hsince)

/-- The greatest duration is past the clock, and so is no timeout at all. -/
theorem past_max (now : Duration.Instant) : Duration.deadline? now (some .max) = none :=
  Duration.deadline?_eq_none (by decide)

/-- A machine at the timeout that it has is as it was. -/
theorem timed_eq {timeout : Option Duration} (h : m.world.channel.settings.readTimeout = timeout) :
    m.timed .reading timeout = m := by
  subst h
  rfl

/-- Setting the read timeout that a device reports replaces at most the greatest duration, by none. -/
theorem Run.restored (hrun : Run (sharing builder operations) moves turns m) (task : Nat) :
    ∃ w, (do Device.setTimeout (← Device.timeout) : Device.Operation Unit).alone task m.world =
        .ended (.ok ()) w ∧
      Follows .reading operations (fun _ => True) m { m with world := w } ∧
      Follows .reading operations (fun _ => True) { m with world := w } m := by
  generalize hold : m.world.channel.settings.readTimeout = old
  have hsame := timed_eq hold
  have halone : (do Device.setTimeout (← Device.timeout) : Device.Operation Unit).alone task m.world =
      .ended (.ok ()) (m.timed .reading (if old.getD .max = .max then none else some (old.getD .max))).world := by
    subst hold
    rfl
  refine ⟨_, halone, ?_⟩
  by_cases hmax : old = some .max
  · subst hmax
    have hfollows := (hrun.follows ⟨.reading, some .max, none, m.world.now, past_max _, rfl⟩ (Nat.le_refl _)).reading rfl
    have hfollows' := (hrun.follows ⟨.reading, none, some .max, m.world.now, rfl, past_max _⟩ (Nat.le_refl _)).reading rfl
    rw [hsame] at hfollows hfollows'
    exact ⟨hfollows, hfollows'⟩
  · have hkept : (if old.getD .max = .max then none else some (old.getD .max)) = old := by
      cases old with
      | none => rfl
      | some duration => exact if_neg fun hduration => hmax (congrArg some hduration)
    rw [hkept, hsame]
    exact ⟨.refl _ _ _ m, .refl _ _ _ m⟩

/-- What a device stores for a timeout it reports again, and the greatest duration it stores as none. -/
theorem alone_setTimeout (task : Nat) (duration : Duration) (w : World) :
    (do
        Device.setTimeout duration
        Device.timeout : Device.Operation Duration).alone task w =
      .ended (.ok duration) (w.withChannel { w.channel with settings := { w.channel.settings with
        readTimeout := if duration = .max then none else some duration } }) := by
  have hreported : (if duration = .max then none else some duration).getD .max = duration := by
    split
    next hmax => exact hmax.symm
    next => rfl
  exact congrArg (fun reported => Solo.ended (.ok reported) _) hreported

/-- At whatever machine a shared channel is reached, two timeouts of one side that are past the clock, or absent,
make no difference: whatever moves are made from there at the one can be made at the other, and then the channels
are the same but for that timeout, tasks sleep in the same places, and all answers are the same that do not tell
of it. Writes that take longer to send than a timeout are left out, for these are refused. Each duration of 2⁶³
seconds or more is such a timeout. So a device reports any timeout that it was given, stores none for the greatest
duration, and may set the timeout that it reports with no effect on what is done later. -/
theorem endless_timeouts_block (hrun : Run (sharing builder operations) moves turns m) :
    (∀ t : Endless, t.since ≤ m.world.now → Follows t.side operations (t.Heeded operations)
        (m.timed t.side t.timeout) (m.timed t.side t.timeout')) ∧
      (∀ side duration, Duration.clockLimit ≤ duration.secs → ∃ t : Endless,
        t.side = side ∧ t.timeout = none ∧ t.timeout' = some duration ∧ t.since = 0) ∧
      (∀ task duration w, (do
          Device.setTimeout duration
          Device.timeout : Device.Operation Duration).alone task w =
        .ended (.ok duration) (w.withChannel { w.channel with settings := { w.channel.settings with
          readTimeout := if duration = .max then none else some duration } })) ∧
      ∀ task, ∃ w, (do Device.setTimeout (← Device.timeout) : Device.Operation Unit).alone task m.world =
          .ended (.ok ()) w ∧
        Follows .reading operations (fun _ => True) m { m with world := w } ∧
        Follows .reading operations (fun _ => True) { m with world := w } m :=
  ⟨hrun.follows, fun side duration hlong =>
    ⟨⟨side, none, some duration, 0, rfl, Duration.deadline?_eq_none hlong⟩, rfl, rfl, rfl, rfl⟩,
    alone_setTimeout, hrun.restored⟩

/-- A channel that is opened and read from by one task, and written to by another. -/
def awaiting : List Operation := [.channel .openPort, .channel (.read 1), .channel (.write [7])]

/-- The read falls asleep, and a byte comes to it. -/
def awaitingMoves : List Move :=
  List.replicate 7 (.act 1) ++ List.replicate 5 (.act 2) ++ [.wake 2 1, .act 1, .act 1]

/-- Once it is open, a read waits until a byte comes, whether there is no timeout or the greatest. -/
theorem endless_timeouts_block_awaiting :
    ∃ turns m later n later' n', Run (sharing narrow awaiting) (List.replicate 26 (.act 0)) turns m ∧
      m.world.channel.settings.readTimeout = none ∧ Run m awaitingMoves later n ∧
      Run (m.timed .reading (some .max)) awaitingMoves later' n' ∧ AgreeBut .reading awaiting n n' ∧
      (n'.outcomeOf? 1).map Outcome.bytesRead = some [7] := by
  obtain ⟨turns, m, later, n, hrun, hmore, hnone, hbytes⟩ :
      ∃ turns m later n, Run (sharing narrow awaiting) (List.replicate 26 (.act 0)) turns m ∧
        Run m awaitingMoves later n ∧ m.world.channel.settings.readTimeout = none ∧
        (n.outcomeOf? 1).map Outcome.bytesRead = some [7] := exists_run_run (by decide +kernel)
  have hfollows := (endless_timeouts_block hrun).1
    ⟨.reading, none, some .max, m.world.now, rfl, past_max _⟩ (Nat.le_refl _)
  rw [timed_eq hnone] at hfollows
  obtain ⟨later', n', hmore', hagree⟩ := hfollows _ _ _ hmore fun _ _ _ _ _ _ _ hwriting => nomatch hwriting
  refine ⟨turns, m, later, n, later', n', hrun, hnone, hmore, hmore', hagree, ?_⟩
  rw [hagree.answers 1 _ rfl id]
  exact hbytes

end Machine

end Loopback
