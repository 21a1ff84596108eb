import Loopback.Proofs.Machine.Declining
import Loopback.Proofs.Work.Worked

/-!
# A closed channel refuses

Whatever needs an open channel asks for it before it does anything else. On a closed one it ends as its end of
the channel tells a closed port, and nothing else comes of it. This does not depend on how the channel came to
be closed, on what its old queues hold, or on what is asked with which argument.
-/

namespace Loopback

variable {ε α : Type}

namespace Program

variable {p : Program ε α}

/-- What declines with a failure declines as a job with what is told of that. -/
theorem Declines.job_failed {failure : ε} (h : p.Declines (.failed failure)) (told : ε → Failure)
    (answer : α → Answer) :
    (p.job told answer).Declines (.failed (told failure)) :=
  (h.mapFailure told).bind_failed _

/-- What declines with a result declines as a job with the answer made of that. -/
theorem Declines.job_ok {result : α} (h : p.Declines (.ok result)) (told : ε → Failure) (answer : α → Answer) :
    (p.job told answer).Declines (.ok (answer result)) :=
  (h.mapFailure told).bind_ok rfl

end Program

namespace Channel

open Program

/-- Looking whether the channel is open is all that is done to decline. -/
theorem declines_ensureOpen : ensureOpen.Declines (.failed .notOpen) := .asked rfl

/-- What goes by the session declines before it asks for that. -/
theorem declines_liveSession : liveSession.Declines (.failed .notOpen) := declines_ensureOpen.bind_failed _

/-- A read of a closed channel declines. -/
theorem declines_read (size : Nat) : (read size).Declines (.failed .notOpen) := declines_liveSession.bind_failed _

/-- Counting the bytes that wait in a closed channel declines. -/
theorem declines_inWaiting : inWaiting.Declines (.failed .notOpen) := declines_liveSession.bind_failed _

/-- Counting the bytes that wait to go out of a closed channel declines. -/
theorem declines_outWaiting : outWaiting.Declines (.failed .notOpen) := declines_liveSession.bind_failed _

/-- Emptying the input buffer of a closed channel declines. -/
theorem declines_resetInput : resetInput.Declines (.failed .notOpen) := declines_liveSession.bind_failed _

/-- A count that is refused is none. -/
theorem declines_counted {count : Operation Nat} (h : count.Declines (.failed .notOpen)) :
    (counted count : Program ε (Option Nat)).Declines (.ok none) :=
  h.attempt.bind_ok rfl

end Channel

namespace Stream

open Program

/-- How a stream tells that its channel is closed. -/
def notConnected : IoFailure := .custom .notConnected (PortFailure.message .notOpen)

/-- A stream declines as its channel does, and tells that it is not connected. -/
theorem declines_ofChannel {operation : Channel.Operation α} (h : operation.Declines (.failed .notOpen)) :
    (ofChannel operation).Declines (.failed notConnected) := h.mapFailure PortFailure.toIo

/-- A stream that is asked for something is refused it. -/
theorem declines_read (size : Nat) : (read (size + 1)).Declines (.failed notConnected) :=
  (declines_ofChannel (Channel.declines_read 1)).bind_failed _

/-- Reading a certain number of bytes, one at least, declines at the first read. -/
theorem declines_readExactly (limit missing : Nat) (taken : List UInt8) :
    (readExactly (limit + 1) (missing + 1) taken).Declines (.failed notConnected) :=
  (declines_read missing).bind_failed _

/-- A refusal ends a reading that keeps what it has. -/
theorem declines_readChunks (fuel : Nat) :
    (readChunks (fuel + 1) [] : Program ε Collected).Declines (.ok ⟨.error notConnected, []⟩) :=
  (declines_read 31).attempt.bind_ok rfl

/-- Reading a line declines at the first read, and keeps nothing. -/
theorem declines_readLineBuffers (fuel : Nat) :
    (readLineBuffers (fuel + 1) [] : Program ε Collected).Declines (.ok ⟨.error notConnected, []⟩) :=
  (declines_read 8191).attempt.bind_ok rfl

/-- There is a first read among those that never end. -/
theorem exists_endless_eq : ∃ fuel, endless = fuel + 1 :=
  ⟨_, (Nat.succ_pred_eq_of_pos (by decide)).symm⟩

/-- Writing all of some bytes declines at the first write. -/
theorem declines_writeAll (byte : UInt8) (rest : List UInt8) :
    (writeAll (byte :: rest)).Declines (.failed notConnected) := by
  rw [writeAll, if_neg (List.cons_ne_nil byte rest)]
  exact (declines_ofChannel (Channel.declines_liveSession.bind_failed _)).bind_failed _

end Stream

namespace Device

open Program

/-- A device declines as its channel does, and tells that in its own terms. -/
theorem declines_ofChannel {operation : Channel.Operation α} (h : operation.Declines (.failed .notOpen)) :
    (ofChannel operation).Declines (.failed (PortFailure.toDevice .notOpen)) := h.mapFailure PortFailure.toDevice

/-- Emptying a buffer of a device declines at the first reset. -/
theorem declines_clear (buffer : Buffer) : (clear buffer).Declines (.failed (PortFailure.toDevice .notOpen)) := by
  cases buffer with
  | input => exact declines_ofChannel Channel.declines_resetInput
  | output => exact declines_ofChannel (Channel.declines_liveSession.bind_failed _)
  | all => exact (declines_ofChannel Channel.declines_resetInput).bind_failed _

end Device

namespace Background

open Program

/-- A call that a background task makes declines as the call does. -/
theorem declines_runTask {program : Channel.Operation α} (h : program.Declines (.failed .notOpen)) :
    (runTask program).Declines (.failed (.port .notOpen)) := (h.mapFailure Failure.port).sheltered _

/-- A count that a closed port does not give is required of it in vain. -/
theorem declines_required {count : Channel.Operation (Option Nat)} (h : count.Declines (.ok none)) :
    (required count).Declines (.failed .notOpen) := h.bind_ok rfl

end Background

/-- How a closed channel refuses what is asked of it, if that needs an open one. -/
def ChannelOperation.refusal? : ChannelOperation → Option (Outcome Failure Answer)
  | .write _ | .read _ | .readOne | .readAvailable _ | .flush | .inWaiting | .outWaiting | .resetInput
  | .resetOutput | .clearToSend | .dataSetReady | .sendBreak _ => some (.failed (.port .notOpen))
  | _ => none

/-- How a plain serial port refuses. What it holds it then does not know. -/
def AdapterOperation.refusal? : AdapterOperation → Option (Outcome Failure Answer)
  | .write _ | .read _ | .clear => some (.failed (.port .notOpen))
  | .bytesToRead | .bytesToWrite => some (.ok (.maybeCount none))
  | .name | .setReadTimeout _ => none

/-- How a port run by background tasks refuses. -/
def BackgroundOperation.refusal? : BackgroundOperation → Option (Outcome Failure Answer)
  | .write _ | .read _ | .bytesAvailable => some (.failed (.background (.port .notOpen)))
  | .name | .close | .setReadTimeout _ | .text => none

/-- How a stream refuses. One that is asked for nothing gives just that, and the readings that keep what they
have end with the refusal and no bytes. -/
def StreamOperation.refusal? : StreamOperation → Option (Outcome Failure Answer)
  | .read 0 | .readExact 0 => some (.ok (.bytes []))
  | .writeAll [] => some (.ok .nothing)
  | .read _ | .readExact _ | .write _ | .writeAll _ | .flush => some (.failed (.stream Stream.notConnected))
  | .readToEnd | .readLine => some (.ok (.collected ⟨.error Stream.notConnected, []⟩))

/-- How a serial device refuses. -/
def DeviceOperation.refusal? : DeviceOperation → Option (Outcome Failure Answer)
  | .clearToSend | .dataSetReady | .bytesToRead | .bytesToWrite | .clear _ =>
    some (.failed (.device ⟨.noDevice, PortFailure.message .notOpen⟩))
  | _ => none

/-- How an operation is refused on a closed channel, if it needs an open one. -/
def Operation.refusal? : Operation → Option (Outcome Failure Answer)
  | .channel operation => operation.refusal?
  | .adapter operation => operation.refusal?
  | .background operation => operation.refusal?
  | .stream operation => operation.refusal?
  | .device operation => operation.refusal?

section declines

open Program

variable {outcome : Outcome Failure Answer}

/-- Every operation of a channel with a refusal declines with that. -/
theorem ChannelOperation.declines {operation : ChannelOperation} (h : operation.refusal? = some outcome) :
    operation.job.Declines outcome := by
  have hlive : ∀ {α : Type} {rest : Session → Channel.Operation α} {answer : α → Answer},
      ((Channel.liveSession >>= rest).job .port answer).Declines (.failed (.port .notOpen)) :=
    (Channel.declines_liveSession.bind_failed _).job_failed _ _
  have hchecked : ∀ {α : Type} {rest : Unit → Channel.Operation α} {answer : α → Answer},
      ((Channel.ensureOpen >>= rest).job .port answer).Declines (.failed (.port .notOpen)) :=
    (Channel.declines_ensureOpen.bind_failed _).job_failed _ _
  cases operation with
  | readOne =>
    cases h
    exact ((Channel.declines_read 1).bind_failed _).job_failed _ _
  | clearToSend | dataSetReady | sendBreak =>
    cases h
    exact hchecked
  | write | read | readAvailable | flush | inWaiting | outWaiting | resetInput | resetOutput =>
    cases h
    exact hlive
  | _ => cases h

/-- Every operation of an adapter with a refusal declines with that. -/
theorem AdapterOperation.declines {operation : AdapterOperation} (h : operation.refusal? = some outcome) :
    operation.job.Declines outcome := by
  cases operation with
  | write | read =>
    cases h
    exact (Channel.declines_liveSession.bind_failed _).job_failed _ _
  | clear =>
    cases h
    exact (Channel.declines_resetInput.bind_failed _).job_failed _ _
  | bytesToRead =>
    cases h
    exact (Channel.declines_counted Channel.declines_inWaiting).job_ok _ _
  | bytesToWrite =>
    cases h
    exact (Channel.declines_counted Channel.declines_outWaiting).job_ok _ _
  | _ => cases h

/-- Every operation of a background endpoint with a refusal declines with that. -/
theorem BackgroundOperation.declines {operation : BackgroundOperation} (h : operation.refusal? = some outcome) :
    operation.job.Declines outcome := by
  cases operation with
  | write | read =>
    cases h
    exact (Background.declines_runTask (Channel.declines_liveSession.bind_failed _)).job_failed _ _
  | bytesAvailable =>
    cases h
    have hcount : (Channel.counted Channel.inWaiting : Channel.Operation (Option Nat)).Declines (.ok none) :=
      Channel.declines_counted Channel.declines_inWaiting
    exact (Background.declines_runTask (Background.declines_required hcount)).job_failed _ _
  | _ => cases h

/-- Every operation of a stream with a refusal declines with that. -/
theorem StreamOperation.declines {operation : StreamOperation} (h : operation.refusal? = some outcome) :
    operation.job.Declines outcome := by
  obtain ⟨fuel, hendless⟩ := Stream.exists_endless_eq
  cases operation with
  | read size =>
    cases size with
    | zero =>
      cases h
      exact .ended rfl
    | succ size =>
      cases h
      exact (Stream.declines_read size).job_failed _ _
  | readExact size =>
    cases size with
    | zero =>
      cases h
      exact .ended rfl
    | succ size =>
      cases h
      exact (Stream.declines_readExactly size size []).job_failed _ _
  | readToEnd =>
    cases h
    rw [StreamOperation.job, Stream.readToEnd, hendless]
    exact (Stream.declines_readChunks fuel).job_ok _ _
  | readLine =>
    cases h
    rw [StreamOperation.job, Stream.readLine, hendless]
    exact (Stream.declines_readLineBuffers fuel).job_ok _ _
  | writeAll data =>
    cases data with
    | nil =>
      cases h
      exact .ended rfl
    | cons byte rest =>
      cases h
      exact (Stream.declines_writeAll byte rest).job_failed _ _
  | write | flush =>
    cases h
    exact (Stream.declines_ofChannel (Channel.declines_liveSession.bind_failed _)).job_failed _ _

/-- Every operation of a device with a refusal declines with that. -/
theorem DeviceOperation.declines {operation : DeviceOperation} (h : operation.refusal? = some outcome) :
    operation.job.Declines outcome := by
  cases operation with
  | clearToSend | dataSetReady =>
    cases h
    exact (Device.declines_ofChannel (Channel.declines_ensureOpen.bind_failed _)).job_failed _ _
  | bytesToRead =>
    cases h
    exact ((Device.declines_ofChannel Channel.declines_inWaiting).bind_failed _).job_failed _ _
  | bytesToWrite =>
    cases h
    exact ((Device.declines_ofChannel Channel.declines_outWaiting).bind_failed _).job_failed _ _
  | clear buffer =>
    cases h
    exact (Device.declines_clear buffer).job_failed _ _
  | _ => cases h

/-- What needs an open channel asks for it first. -/
theorem Operation.declines {operation : Operation} (h : operation.refusal? = some outcome) :
    operation.job.Declines outcome := by
  cases operation with
  | channel operation => exact operation.declines h
  | adapter operation => exact operation.declines h
  | background operation => exact operation.declines h
  | stream operation => exact operation.declines h
  | device operation => exact operation.declines h

end declines

/-- Whatever needs an open channel is refused on a closed one, as its end of the channel tells it. It is so
alone; beside other tasks it takes one step, which changes nothing but where its task stands; and as long as
nobody opens the channel it never sleeps and leaves the world as it is at each of its turns. -/
theorem Operation.refused_of_closed {operation : Operation} {outcome : Outcome Failure Answer}
    (hrefusal : operation.refusal? = some outcome) {m : Machine Failure Answer} {task : Nat}
    (hbegun : m.tasks[task]? = some (.running operation.job)) (hclosed : m.world.channel.isOpen = false) :
    operation.job.alone task m.world = .ended outcome m.world ∧
      (operation.job.stand = .ended outcome ∨ ∃ p, p.stand = .ended outcome ∧
        m.step (.act task) = some (m.setTask task (.running p))) ∧
      ∀ {moves : List Move} {turns : List Turn} {m' : Machine Failure Answer}, m.Run moves turns m' →
        (∀ turn ∈ turns, turn.deed.action ≠ .setOpen true) →
        m'.world.channel.isOpen = false ∧ m'.Refused task outcome turns := by
  have hdeclines := Operation.declines hrefusal
  refine ⟨hdeclines.alone task hclosed, ?_, fun hrun hstays => hrun.refused hbegun hdeclines hclosed hstays⟩
  generalize operation.job = p at hbegun hdeclines
  cases hdeclines with
  | ended hended => exact .inl hended
  | asked hended => exact .inr ⟨_, hended, hclosed ▸ (Machine.step_getOpen hbegun).1⟩

/-- A channel is opened, two bytes are written, and it is closed before anybody reads them. -/
def unread : List (Operation × List Move) := [
  (.channel .openPort, List.replicate 26 (.act 0)),
  (.stream (.write [1, 2]), List.replicate 10 (.act 1)),
  (.background .close, List.replicate 12 (.act 2))]

/-- On a closed channel with bytes left over, an empty write is refused and the bytes stay. -/
theorem refused_of_closed_unread :
    ∃ m, Worked { cramped with capacity := 2 } m ∧ m.world.channel.isOpen = false ∧
      m.world.channel.queues.map Queue.items = [[.byte 1, .byte 2, .endOfStream]] ∧
      (Operation.channel (.write [])).job.alone 3 m.world = .ended (.failed (.port .notOpen)) m.world ∧
      ∃ p, p.stand = .ended (.failed (.port .notOpen)) ∧
        (m.beside [(Operation.channel (.write [])).job]).step (.act 3) =
          some ((m.beside [(Operation.channel (.write [])).job]).setTask 3 (.running p)) := by
  have hworks : ((Machine.ofPrograms { cramped with capacity := 2 }.world []).work? unread).map
      (fun m => (m.world.channel.isOpen, m.world.channel.queues.map Queue.items, m.tasks.length)) =
        some (false, [[.byte 1, .byte 2, .endOfStream]], 3) := by decide +kernel
  obtain ⟨m, hm, hleft⟩ := Option.map_eq_some_iff.1 hworks
  obtain ⟨hclosed, hitems, hthird⟩ : m.world.channel.isOpen = false ∧
      m.world.channel.queues.map Queue.items = [[.byte 1, .byte 2, .endOfStream]] ∧ m.tasks.length = 3 := by
    simpa using hleft
  have hbegun : (m.beside [(Operation.channel (.write [])).job]).tasks[3]? =
      some (.running (Operation.channel (.write [])).job) := by
    rw [Machine.tasks_beside_of_le m _ (Nat.le_of_eq hthird), hthird]
    rfl
  obtain ⟨halone, hstep, -⟩ := Operation.refused_of_closed rfl hbegun hclosed
  exact ⟨m, Worked.start.work? hm, hclosed, hitems, halone, hstep.resolve_left nofun⟩

end Loopback
