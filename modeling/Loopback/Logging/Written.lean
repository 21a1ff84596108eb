import Loopback.Config.Basic
import Loopback.Event
import Loopback.Json.Printer

/-!
# Events in writing

An event is written as a line, or as an object with its fields.
-/

namespace Loopback

namespace Event

/-- A line of text: the severity, the part, and the message. -/
def line (event : Event) : String :=
  event.severity.label ++ " " ++ event.target ++ ": " ++ event.message

/-- The message and the fields, by their names. -/
def fieldsJson (event : Event) : Json :=
  .object (("message", .string event.message) :: event.fields)

/-- An event as an object. -/
def toJson (event : Event) : Json :=
  .object [
    ("level", .string event.severity.label),
    ("fields", event.fieldsJson),
    ("target", .string event.target)]

end Event

/-- An event as a log of some format has it. -/
def LogFormat.written (format : LogFormat) (event : Event) : String :=
  match format with
  | .json => event.toJson.compact
  | .pretty => event.line
  | .compact => event.line

end Loopback
