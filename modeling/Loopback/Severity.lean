import Loopback.Named

/-!
# Severities

The four severities of a diagnostic, in rising order, under their exact small-letter names.
-/

namespace Loopback

/-- How serious a diagnostic is. -/
inductive Severity where
  | debug
  | info
  | warning
  | error
deriving DecidableEq, Repr, Inhabited

namespace Severity

/-- All severities, least serious first. -/
def all : List Severity := [.debug, .info, .warning, .error]

/-- The name of a severity. -/
def name : Severity → String
  | .debug => "debug"
  | .info => "info"
  | .warning => "warning"
  | .error => "error"

/-- The place of a severity in the rising order. -/
def rank : Severity → Nat
  | .debug => 0
  | .info => 1
  | .warning => 2
  | .error => 3

/-- The word for a severity in an event. -/
def label : Severity → String
  | .debug => "DEBUG"
  | .info => "INFO"
  | .warning => "WARN"
  | .error => "ERROR"

instance : Named Severity where
  all := all
  name := name

/-- The severity of exactly that name. -/
def ofName? (text : String) : Option Severity :=
  Named.find? text

/-- Whether a threshold lets a severity through. -/
def admits (threshold level : Severity) : Bool :=
  threshold.rank ≤ level.rank

/-- What is said of a name that no severity has. -/
def unknownName (text : String) : String :=
  "unknown log level: " ++ Text.quoted text

/-- A severity is found under its own name. -/
theorem ofName?_name (s : Severity) : ofName? s.name = some s := by
  cases s <;> decide

/-- A name is found only for the severity that bears it. -/
theorem name_of_ofName? {text : String} {s : Severity} (h : ofName? text = some s) :
    s.name = text :=
  Named.name_of_find? h

end Severity

end Loopback
