import Loopback.Severity
import Loopback.Json.Basic

/-!
# Events

What the library reports as it works: a severity, the part it comes from, a message and further
fields. The part named `loop_serial::loop` speaks for a channel whose address asks for
diagnostics.
-/

namespace Loopback

/-- Something reported. -/
structure Event where
  severity : Severity
  target : String
  message : String
  fields : List (String × Json)
deriving Repr

namespace Event

/-- The part that speaks for a channel's diagnostics. -/
def diagnosticTarget : String := "loop_serial::loop"

/-- The part that speaks for opening and closing. -/
def channelTarget : String := "loop_serial::port::loopback"

/-- The part that speaks for reading the configuration. -/
def configTarget : String := "loop_serial::config::loader"

/-- The part that speaks for the command. -/
def commandTarget : String := "loop_serial"

/-- A diagnostic of a channel. -/
def diagnostic (severity : Severity) (message : String) : Event :=
  ⟨severity, diagnosticTarget, message, []⟩

end Event

end Loopback
