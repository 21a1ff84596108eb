import Loopback.Event
import Loopback.Queue
import Loopback.Settings

/-!
# Atomic actions

What a task does to a shared channel in one step. Between two actions of one task any other task
may act, so each access to a shared field, and each critical section of a queue, is an action of
its own. Three of them may have to wait: putting an element where there is no room, taking one
where there is none, and pausing.

A queue is named by the place of its session among all sessions of the channel, so a task keeps
the queue it began with when the channel is opened anew.
-/

namespace Loopback

/-- What never changes about a channel. -/
structure Traits where
  capacity : Nat
  closeSettle : Duration
deriving DecidableEq, Repr

/-- The output lines of a port, and its break condition. -/
inductive Line where
  | requestToSend
  | dataTerminalReady
  | breakCondition
deriving DecidableEq, Repr

/-- The sessions of a channel, counted from its first opening. -/
abbrev Session := Nat

/-- What a sleeper waits for at a queue. -/
inductive Want where
  | room
  | item
deriving DecidableEq, Repr

/-- A call to sleepers at a queue: to one of them, or to all. -/
inductive Call where
  | one (session : Session) (want : Want)
  | every (session : Session) (want : Want)
deriving DecidableEq, Repr

/-- A step that a task may take. -/
inductive Action where
  | getTraits
  | getOpen
  | setOpen (isOpen : Bool)
  | getLine (line : Line)
  | setLine (line : Line) (level : Bool)
  | getAddress
  | setAddress (address : Option String)
  | getSettings
  | changeSettings (change : PortSettings → PortSettings)
  | getDiagnostics
  | dropDiagnostics
  | attachDiagnostics (level : Option Severity)
  | getSession
  | newSession
  | getLength (session : Session)
  | clear (session : Session)
  | push (session : Session) (item : Item) (deadline : Option Duration.Instant)
  | append (session : Session) (item : Item)
  | pop (session : Session) (deadline : Option Duration.Instant)
  | getClock
  | pause (deadline : Duration.Instant)
  | enterLifecycle
  | leaveLifecycle
  | note (severity : Severity) (message : String)
  | report (event : Event)

namespace Action

/-- What an action answers. -/
abbrev Reply : Action → Type
  | .getTraits => Traits
  | .getOpen => Bool
  | .setOpen _ => Unit
  | .getLine _ => Bool
  | .setLine _ _ => Unit
  | .getAddress => Option String
  | .setAddress _ => Unit
  | .getSettings => PortSettings
  | .changeSettings _ => Unit
  | .getDiagnostics => Option Severity
  | .dropDiagnostics => Unit
  | .attachDiagnostics _ => Unit
  | .getSession => Option Session
  | .newSession => Unit
  | .getLength _ => Nat
  | .clear _ => Nat
  | .push _ _ _ => Bool
  | .append _ _ => Unit
  | .pop _ _ => Option Item
  | .getClock => Duration.Instant
  | .pause _ => Unit
  | .enterLifecycle => Unit
  | .leaveLifecycle => Unit
  | .note _ _ => Unit
  | .report _ => Unit

/-- Where a task that waits in an action can be called, and for what. -/
def post? : Action → Option (Session × Want)
  | .push session _ _ => some (session, .room)
  | .pop session _ => some (session, .item)
  | _ => none

/-- When a task that waits in an action gives up. -/
def deadline? : Action → Option Duration.Instant
  | .push _ _ deadline => deadline
  | .pop _ deadline => deadline
  | .pause deadline => some deadline
  | _ => none

end Action

end Loopback
