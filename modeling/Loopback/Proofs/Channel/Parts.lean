import Loopback.Endpoint.Background
import Loopback.Endpoint.Device
import Loopback.Endpoint.Stream
import Loopback.Proofs.Machine.Rule

/-!
# What calls are made of

Many properties of a program go by how it is built: they hold of every single action of a certain sort, and of
what is put together from programs that have them. Such a property holds of all calls on a channel, through
whatever end, once it is known of the few parts that go by the settings: checking them, writing and reading.
-/

namespace Loopback

variable {ε δ α β : Type}

/-- Actions that do not go by the settings of a channel, its address or its diagnostics, and do not change
these or set a line. -/
def Action.Ordinary : Action → Prop
  | .setLine _ _ => False
  | .getSettings | .changeSettings _ | .getAddress | .setAddress _ => False
  | .getDiagnostics | .dropDiagnostics | .attachDiagnostics _ => False
  | .report event => event.target = Event.channelTarget
  | _ => True

/-- A property that programs have by how they are built from plain actions, which all ordinary ones are. -/
structure Program.Hereditary (holds : ∀ {ε α : Type}, Program ε α → Prop) (plain : Action → Prop) : Prop where
  ordinary {action : Action} : action.Ordinary → plain action
  done {ε α : Type} (result : α) : holds (.done result : Program ε α)
  fail {ε α : Type} (failure : ε) : holds (.fail failure : Program ε α)
  abort {ε α : Type} (message : String) : holds (.abort message : Program ε α)
  act {ε α : Type} {action : Action} {next : action.Reply → Program ε α} :
    plain action → (∀ answer, holds (next answer)) → holds (.act action next)
  bind {ε α β : Type} {p : Program ε α} {rest : α → Program ε β} :
    holds p → (∀ result, holds (rest result)) → holds (p >>= rest)
  mapFailure {ε δ α : Type} {p : Program δ α} (f : δ → ε) : holds p → holds (p.mapFailure f)
  attempt {ε δ α : Type} {p : Program δ α} : holds p → holds (p.attempt : Program ε (Except δ α))
  sheltered {ε α : Type} {p : Program ε α} (f : String → ε) : holds p → holds (p.sheltered f)
  thenAlways {ε α : Type} {p : Program ε α} {last : Action} :
    plain last → holds p → holds (p.thenAlways last)

namespace Program.Hereditary

variable {holds : ∀ {ε α : Type}, Program ε α → Prop} {plain : Action → Prop} (h : Hereditary holds plain)

include h

/-- What follows an ordinary action. -/
theorem next {action : Action} {next : action.Reply → Program ε α} (hordinary : action.Ordinary)
    (hnext : ∀ answer, holds (next answer)) : holds (Program.act action next) :=
  h.act (h.ordinary hordinary) hnext

/-- A single plain action has the property. -/
theorem perform {action : Action} (hplain : plain action) :
    holds (Program.perform action : Program ε action.Reply) :=
  h.act hplain fun _ => h.done _

/-- A check, which does nothing, has the property. -/
theorem ofExcept (check : Except ε α) : holds (Program.ofExcept check) := by
  cases check with
  | ok result => exact h.done result
  | error failure => exact h.fail failure

/-- To sleep is to look at the clock and to pause. -/
theorem sleep (duration : Duration) : holds (Program.sleep duration : Program ε Unit) :=
  h.next trivial fun _ => h.perform (h.ordinary trivial)

/-- What is done exclusively stands between two ordinary actions. -/
theorem exclusively {p : Program ε α} (hp : holds p) : holds (Program.exclusively p) :=
  h.next trivial fun _ => h.thenAlways (h.ordinary trivial) hp

section channel

open Channel

/-- To look whether the channel is open is ordinary. -/
theorem ensureOpen : holds ensureOpen :=
  h.next trivial fun isOpen => by
    cases isOpen with
    | true => exact h.done ()
    | false => exact h.fail _

/-- Whatever follows goes by the session of the channel. -/
theorem liveSession {rest : Session → Operation α} (hrest : ∀ session, holds (rest session)) :
    holds (liveSession >>= rest) := by
  have hlive : holds Channel.liveSession := h.bind h.ensureOpen fun _ => h.next trivial fun current => by
    cases current with
    | some session => exact h.done session
    | none => exact h.fail _
  exact h.bind hlive hrest

/-- Both resets drop what is queued in the session. -/
theorem reset (message : String) :
    holds (do
      let session ← Channel.liveSession
      Program.note .info message
      let _ ← QueueCall.clear session
      pure () : Operation Unit) :=
  h.liveSession fun _ => h.next trivial fun _ => h.next trivial fun _ => h.done ()

/-- To count the bytes that wait is ordinary. -/
theorem inWaiting : holds inWaiting :=
  h.liveSession fun _ => h.next trivial fun _ => h.next trivial fun _ => h.done _

/-- To count the bytes that wait to go out is ordinary: there are none. -/
theorem outWaiting : holds outWaiting :=
  h.liveSession fun _ => h.done 0

/-- To flush is ordinary: there is nothing to wait for. -/
theorem flush : holds flush :=
  h.liveSession fun _ => h.done ()

/-- A count that failing leaves out has the property if the count has. -/
theorem counted {count : Operation Nat} (hcount : holds count) :
    holds (counted count : Program ε (Option Nat)) :=
  h.bind (h.attempt hcount) fun result => by cases result <;> exact h.done _

/-- By induction on the data: each byte is pushed, and then the rest. -/
theorem pushAll (session : Session) (timeout : Option Duration) (data : List UInt8) :
    holds (pushAll session timeout data) := by
  induction data with
  | nil => exact h.done ()
  | cons byte rest ih =>
    refine h.next trivial fun now => h.next trivial fun accepted => ?_
    cases accepted with
    | true => exact ih
    | false => exact h.fail _

/-- By induction on how many bytes are missing: one is waited for, and then the rest. -/
theorem takeWaiting (session : Session) (timeout : Option Duration) (deadline : Option Duration.Instant)
    (size : Nat) (taken : List UInt8) : holds (takeWaiting session timeout deadline size taken) := by
  induction size generalizing taken with
  | zero => exact h.done _
  | succ left ih =>
    refine h.next trivial fun isOpen => ?_
    cases isOpen with
    | false => exact h.done _
    | true =>
      refine h.next trivial fun now => h.next trivial fun item => ?_
      match item with
      | none => exact h.done _
      | some .endOfStream => exact h.done _
      | some (.byte byte) =>
        cases deadline with
        | none => exact ih (byte :: taken)
        | some instant =>
          refine h.next trivial fun later => ?_
          dsimp only [Program.bind, pure_eq_done]
          split
          · exact h.done _
          · exact ih (byte :: taken)

/-- By induction on how many bytes are missing: one that is there is taken, and then the rest. -/
theorem takeQueued (session : Session) (limit : Nat) (taken : List UInt8) :
    holds (takeQueued session limit taken) := by
  induction limit generalizing taken with
  | zero => exact h.done _
  | succ left ih =>
    refine h.next trivial fun now => h.next trivial fun item => ?_
    match item with
    | none => exact h.done _
    | some .endOfStream => exact h.done _
    | some (.byte byte) => exact ih (byte :: taken)

/-- To read what is there takes from the queue without waiting. -/
theorem readAvailable (limit : Nat) : holds (readAvailable limit) :=
  h.liveSession fun session => h.takeQueued session limit []

/-- Setting a line and noting that. -/
theorem setLine {line : Line} {level : Bool} (hline : plain (.setLine line level)) (message : String) :
    holds (do
      .perform (.setLine line level)
      Program.note .info message : Program ε Unit) :=
  h.act hline fun _ => h.perform (h.ordinary trivial)

/-- To send a break sets its line twice, with a pause in between. -/
theorem sendBreak (hline : ∀ level, plain (.setLine .breakCondition level)) (duration : Duration) :
    holds (sendBreak duration) :=
  h.bind h.ensureOpen fun _ => h.bind (h.setLine (hline true) _) fun _ => h.bind (h.sleep duration) fun _ =>
    h.setLine (hline false) _

/-- Looking at a line of an open channel and noting its level. -/
theorem lineLevel (line : Line) (message : Bool → String) :
    holds (do
      Channel.ensureOpen
      let level ← Program.getLine line
      Program.note .info (message level)
      pure level : Operation Bool) :=
  h.bind h.ensureOpen fun _ => h.next trivial fun _ => h.next trivial fun _ => h.done _

/-- An answer given with a note. -/
theorem noted (message : String) (answer : α) :
    holds (do
      Program.note .info message
      pure answer : Program ε α) :=
  h.next trivial fun _ => h.done answer

/-- To close is to mark the end, to report, and to pause, exclusively. -/
theorem closePort : holds (closePort : Program ε Unit) := by
  have hafter : holds (do
      .perform (.setOpen false)
      Program.note .info "close()"
      let traits ← Program.getTraits
      .perform (.report (closedEvent traits.closeSettle))
      Program.sleep traits.closeSettle : Program ε Unit) := by
    refine h.next trivial fun _ => h.next trivial fun _ => h.next trivial fun traits => ?_
    have hordinary : Action.Ordinary (.report (closedEvent traits.closeSettle)) := rfl
    exact h.next hordinary fun _ => h.sleep _
  refine h.exclusively (h.next trivial fun isOpen => ?_)
  cases isOpen with
  | false => exact h.done ()
  | true =>
    refine h.next trivial fun current => ?_
    cases current with
    | none => exact hafter
    | some session => exact h.next trivial fun _ => hafter

/-- A checked setting may be changed, and is checked again while the channel is open. -/
theorem checkedChange (hreconfigure : holds reconfigure) {check : Except PortFailure β}
    {change : β → PortSettings → PortSettings} (hchange : ∀ checked, plain (.changeSettings (change checked))) :
    holds (do
      let checked ← Program.ofExcept check
      Program.changeSettings (change checked)
      if ← Program.getOpen then reconfigure else pure () : Operation Unit) := by
  refine h.bind (h.ofExcept check) fun checked => h.act (hchange checked) fun _ => h.next trivial fun isOpen => ?_
  cases isOpen with
  | true => exact hreconfigure
  | false => exact h.done ()

section opening

variable (hreconfigure : holds Channel.reconfigure) (haddress : plain .getAddress) (hdrop : plain .dropDiagnostics)
  (hattach : ∀ level, plain (.attachDiagnostics level)) (hline : ∀ line, plain (.setLine line false))

include hreconfigure haddress hdrop hattach hline

/-- To open has the property if the checks of the settings have, which go by them. -/
theorem openPort : holds openPort := by
  refine h.exclusively (h.next trivial fun isOpen => ?_)
  cases isOpen with
  | true => exact h.fail _
  | false =>
    refine h.act hdrop fun _ => h.act haddress fun address => ?_
    match address with
    | none => exact h.fail _
    | some text =>
      dsimp only [Program.bind]
      refine h.bind (h.ofExcept _) fun address => h.act (hattach _) fun _ => ?_
      dsimp only [Program.bind]
      refine h.bind hreconfigure fun _ => h.next trivial fun traits => ?_
      dsimp only [Program.bind]
      split
      next =>
        refine h.next trivial fun _ => h.next trivial fun _ => ?_
        dsimp only [Program.bind]
        refine h.bind (h.setLine (hline _) _) fun _ => h.bind (h.setLine (hline _) _) fun _ => ?_
        refine h.bind (h.reset _) fun _ => h.bind (h.reset _) fun _ => ?_
        have hordinary : Action.Ordinary (.report (openedEvent text traits.capacity)) := rfl
        exact h.perform (h.ordinary hordinary)
      next => exact h.abort _

/-- To move the channel closes it, stores the address and opens it again. -/
theorem setAddress {address : Option String} (hset : plain (.setAddress address)) : holds (setAddress address) := by
  refine h.next trivial fun isOpen => ?_
  cases isOpen with
  | true =>
    dsimp only [Program.bind]
    exact h.bind h.closePort fun _ => h.act hset fun _ => h.openPort hreconfigure haddress hdrop hattach hline
  | false => exact h.perform hset

end opening

section settings

variable (hsettings : plain .getSettings)

include hsettings

/-- The checks of the settings have the property if getting the settings and changing them have. -/
theorem reconfigure : holds reconfigure := by
  refine h.act hsettings fun settings => ?_
  dsimp only [Program.bind]
  exact h.bind (h.ofExcept _) fun _ => h.perform (h.ordinary trivial)

/-- A write goes by the settings, and then pushes. -/
theorem write (data : List UInt8) : holds (write data) := by
  refine h.liveSession fun session => h.act hsettings fun settings => ?_
  dsimp only [Program.bind]
  split
  next => exact h.abort _
  next transmit _ =>
    have hqueueAll : holds (do
        Channel.pushAll session settings.writeTimeout data
        Program.note .debug (writtenNote data.length transmit)
        pure data.length : Operation Nat) :=
      h.bind (h.pushAll session _ data) fun _ => h.next trivial fun _ => h.done _
    split
    next timeout _ =>
      split
      · exact h.bind (h.sleep timeout) fun _ => h.fail _
      · exact hqueueAll
    next => exact hqueueAll

/-- A read goes by the settings, and then takes. -/
theorem read (size : Nat) : holds (read size) :=
  h.liveSession fun session => h.act hsettings fun _ => h.next trivial fun _ =>
    h.takeWaiting session _ _ size []

end settings

end channel

section ends

variable {count : Channel.Operation Nat} {data : List UInt8}

/-- A call that a background task makes has the property of the call. -/
theorem runTask {p : Channel.Operation α} (hp : holds p) : holds (Background.runTask p) :=
  h.sheltered Background.Failure.taskAborted (h.mapFailure Background.Failure.port hp)

/-- To count the available bytes in the background is to count those that wait. -/
theorem bytesAvailable : holds Background.bytesAvailable :=
  h.runTask (h.bind (h.counted h.inWaiting) fun count => by
    cases count with
    | some n => exact h.done n
    | none => exact h.fail _)

/-- A count told in 32 bits is made as before. -/
theorem narrowed (hcount : holds count) :
    holds (do
      let waiting ← Device.ofChannel count
      pure (Device.narrowed waiting) : Device.Operation Nat) :=
  h.bind (h.mapFailure _ hcount) fun _ => h.done _

/-- A buffer that is cleared is reset, or both are. -/
theorem clear (buffer : Device.Buffer) : holds (Device.clear buffer) := by
  cases buffer with
  | input | output => exact h.mapFailure _ (h.reset _)
  | all => exact h.bind (h.mapFailure _ (h.reset _)) fun _ => h.mapFailure _ (h.reset _)

/-- To write all is to write, and to fail otherwise than the channel does. -/
theorem writeAll (hwrite : holds (Channel.write data)) : holds (Stream.writeAll data) := by
  unfold Stream.writeAll
  split
  · exact h.done ()
  · refine h.bind (h.mapFailure _ hwrite) fun count => ?_
    split
    · exact h.fail _
    · exact h.done ()

variable (hread : holds (Channel.read 1))

include hread

/-- To read a stream is to read what is there, waiting for one byte only if there is none. -/
theorem readStream (size : Nat) : holds (Stream.read size) := by
  cases size with
  | zero => exact h.done []
  | succ size =>
    refine h.bind (h.mapFailure _ hread) fun bytes => ?_
    match bytes with
    | byte :: _ => exact h.bind (h.mapFailure _ (h.readAvailable size)) fun _ => h.done _
    | [] =>
      refine h.next trivial fun isOpen => ?_
      cases isOpen with
      | true => exact h.fail _
      | false => exact h.done []

/-- By induction on how many reads are left: each takes what it can. -/
theorem readExactly (limit missing : Nat) (taken : List UInt8) : holds (Stream.readExactly limit missing taken) := by
  induction limit generalizing missing taken with
  | zero =>
    cases missing with
    | zero => exact h.done taken
    | succ => exact h.fail _
  | succ limit ih =>
    cases missing with
    | zero => exact h.done taken
    | succ missing =>
      refine h.bind (h.readStream hread _) fun bytes => ?_
      match bytes with
      | [] => exact h.fail _
      | _ :: _ => exact ih _ _

/-- By induction on how many reads are left: a chunk is read, and then the rest. -/
theorem readChunks (fuel : Nat) (taken : List (List UInt8)) :
    holds (Stream.readChunks fuel taken : Program ε Stream.Collected) := by
  induction fuel generalizing taken with
  | zero => exact h.abort _
  | succ fuel ih =>
    refine h.bind (h.attempt (h.readStream hread _)) fun result => ?_
    match result with
    | .ok [] => exact h.done _
    | .ok (_ :: _) => exact ih _
    | .error _ => exact h.done _

/-- By induction on how many reads are left: what is read is searched for the end of the line. -/
theorem readLineBuffers (fuel : Nat) (taken : List (List UInt8)) :
    holds (Stream.readLineBuffers fuel taken : Program ε Stream.Collected) := by
  induction fuel generalizing taken with
  | zero => exact h.abort _
  | succ fuel ih =>
    refine h.bind (h.attempt (h.readStream hread _)) fun result => ?_
    match result with
    | .ok [] => exact h.done _
    | .ok (_ :: _) =>
      dsimp only
      split
      · exact h.done _
      · exact ih _
    | .error _ => exact h.done _

end ends

end Program.Hereditary

/-- To take certain actions only, ordinary ones among them, goes by how programs are built. -/
theorem Program.hereditary_obeys {allowed : Action → Prop}
    (hordinary : ∀ {action : Action}, action.Ordinary → allowed action) :
    Hereditary (fun p => p.Obeys (.always allowed) []) allowed where
  ordinary := hordinary
  done _ := obeys_done
  fail _ := obeys_fail
  abort _ := obeys_abort
  act hallowed hnext := obeys_act.2 ⟨hallowed, hnext⟩
  bind hp hrest := Obeys.bind hp fun result _ => hrest result
  mapFailure f hp := Obeys.mapFailure hp f
  attempt hp := Obeys.attempt hp
  sheltered f hp := Obeys.sheltered hp f
  thenAlways hlast hp := Obeys.thenAlways hp fun _ => hlast

end Loopback
