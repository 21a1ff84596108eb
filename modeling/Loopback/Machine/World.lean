import Loopback.Machine.Program

/-!
# What tasks share

The state of one channel, the clock, and the journal of what was reported and by whom. An action
either answers at once, or has to wait, or is held up by another task that is opening or closing
the channel.
-/

namespace Loopback

/-- The state of a channel. Every session has its queue; the last is the current one. -/
structure Channel where
  traits : Traits
  address : Option String
  settings : PortSettings
  queues : List Queue
  isOpen : Bool
  requestToSend : Bool
  dataTerminalReady : Bool
  breakCondition : Bool
  diagnostics : Option Severity
  changing : Bool

namespace Channel

/-- A closed channel that was never open. -/
def create (traits : Traits) (address : Option String) (settings : PortSettings) : Channel where
  traits := { traits with capacity := max traits.capacity 1 }
  address := address
  settings := settings
  queues := []
  isOpen := false
  requestToSend := false
  dataTerminalReady := false
  breakCondition := false
  diagnostics := none
  changing := false

/-- The level of a line. -/
def line (c : Channel) : Line → Bool
  | .requestToSend => c.requestToSend
  | .dataTerminalReady => c.dataTerminalReady
  | .breakCondition => c.breakCondition

/-- The channel with a line at a level. -/
def setLine (c : Channel) (line : Line) (level : Bool) : Channel :=
  match line with
  | .requestToSend => { c with requestToSend := level }
  | .dataTerminalReady => { c with dataTerminalReady := level }
  | .breakCondition => { c with breakCondition := level }

/-- The session of the last opening. -/
def session? (c : Channel) : Option Session :=
  match c.queues.length with
  | 0 => none
  | n + 1 => some n

/-- The channel with the queue of a session replaced. -/
def setQueue (c : Channel) (session : Session) (queue : Queue) : Channel :=
  { c with queues := c.queues.set session queue }

/-- The diagnostics that a level lets through. -/
def diagnosticsOf (level : Option Severity) (severity : Severity) (message : String) : List Event :=
  match level with
  | none => []
  | some threshold =>
    if threshold.admits severity then [.diagnostic severity message] else []

end Channel

/-- An event and the task that reported it. -/
structure JournalEntry where
  task : Nat
  event : Event

/-- All that tasks share. The journal has its newest entry first. -/
structure World where
  channel : Channel
  now : Duration.Instant
  journal : List JournalEntry

namespace World

/-- Add events of a task to the journal. -/
def record (w : World) (task : Nat) (events : List Event) : World :=
  { w with journal := (events.map fun event => ⟨task, event⟩).reverse ++ w.journal }

/-- The world with another channel state. -/
def withChannel (w : World) (channel : Channel) : World :=
  { w with channel }

end World

/-- What comes of an action: an answer, with the changed world and a call to sleepers; or the
need to wait, with the answer in case the wait is given up; or being held up. -/
inductive Verdict (ρ : Type) where
  | reply (answer : ρ) (world : World) (call : Option Call)
  | wait (otherwise : ρ)
  | held

namespace Action

/-- What comes of an action that concerns the queue of a session. A session that never was
answers as if its queue took nothing. -/
def atQueue {ρ : Type} (w : World) (session : Session) (absent : ρ)
    (act : Queue → Verdict ρ) : Verdict ρ :=
  match w.channel.queues[session]? with
  | none => .reply absent w none
  | some queue => act queue

/-- What comes of an action of a task. -/
def run (task : Nat) (w : World) : (action : Action) → Verdict action.Reply
  | .getTraits => .reply w.channel.traits w none
  | .getOpen => .reply w.channel.isOpen w none
  | .setOpen isOpen => .reply () (w.withChannel { w.channel with isOpen }) none
  | .getLine line => .reply (w.channel.line line) w none
  | .setLine line level => .reply () (w.withChannel (w.channel.setLine line level)) none
  | .getAddress => .reply w.channel.address w none
  | .setAddress address => .reply () (w.withChannel { w.channel with address }) none
  | .getSettings => .reply w.channel.settings w none
  | .changeSettings change =>
    .reply () (w.withChannel { w.channel with settings := change w.channel.settings }) none
  | .getDiagnostics => .reply w.channel.diagnostics w none
  | .dropDiagnostics => .reply () (w.withChannel { w.channel with diagnostics := none }) none
  | .attachDiagnostics level =>
    .reply ()
      ((w.record task (Channel.diagnosticsOf level .debug "enabled logging")).withChannel
        { w.channel with diagnostics := level }) none
  | .getSession => .reply w.channel.session? w none
  | .newSession =>
    .reply ()
      (w.withChannel { w.channel with
        queues := w.channel.queues ++ [Queue.create w.channel.traits.capacity] }) none
  | .getLength session => atQueue w session 0 fun queue => .reply queue.length w none
  | .clear session =>
    atQueue w session 0 fun queue =>
      .reply queue.clear.1 (w.withChannel (w.channel.setQueue session queue.clear.2))
        (some (.every session .room))
  | .push session item _ =>
    atQueue w session false fun queue =>
      match queue.offer item with
      | some queue =>
        .reply true (w.withChannel (w.channel.setQueue session queue)) (some (.one session .item))
      | none => .wait false
  | .append session item =>
    atQueue w session () fun queue =>
      .reply () (w.withChannel (w.channel.setQueue session (queue.append item)))
        (some (.one session .item))
  | .pop session _ =>
    atQueue w session none fun queue =>
      match queue.take? with
      | some (entry, queue) =>
        .reply (some entry.item) (w.withChannel (w.channel.setQueue session queue))
          (if entry.counted then some (.one session .room) else none)
      | none => .wait none
  | .getClock => .reply w.now w none
  | .pause deadline => if deadline ≤ w.now then .reply () w none else .wait ()
  | .enterLifecycle =>
    if w.channel.changing then .held
    else .reply () (w.withChannel { w.channel with changing := true }) none
  | .leaveLifecycle => .reply () (w.withChannel { w.channel with changing := false }) none
  | .note severity message =>
    .reply () (w.record task (Channel.diagnosticsOf w.channel.diagnostics severity message)) none
  | .report event => .reply () (w.record task [event]) none

end Action

end Loopback
