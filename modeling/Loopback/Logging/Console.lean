import Loopback.Logging.Filter

/-!
# The console of a process

A process has at most one console that prints events, and its filter is fixed when it is set up.
A diagnostic sink asks for a console for its own part, but gets none if there is one already; what
it then emits is still subject to the filter of the first.
-/

namespace Loopback.Logging

/-- The output of a process: the filter of its console, if it has one, and what has been printed,
newest first. -/
structure Output where
  console : Option Filter
  printed : List Event

namespace Output

/-- A process that prints nothing yet. -/
def fresh : Output := ⟨none, []⟩

/-- Whether there is a console. -/
def hasConsole (p : Output) : Bool := p.console.isSome

/-- Set up a console, unless there is one; the answer says whether this did it. -/
def setUp (p : Output) (filter : Filter) : Bool × Output :=
  match p.console with
  | some _ => (false, p)
  | none => (true, { p with console := some filter })

/-- Make sure that there is a console, one for diagnostics of some severity if need be. -/
def ensureConsole (p : Output) (level : Severity) : Bool × Output :=
  p.setUp (.ofPart Event.diagnosticTarget (.ofSeverity level))

/-- Report an event: it is printed if there is a console whose filter lets it through. -/
def report (p : Output) (event : Event) : Output :=
  match p.console with
  | some filter => if filter.admits event then { p with printed := event :: p.printed } else p
  | none => p

/-- Emit a message through a sink of some severity. -/
def emit (p : Output) (sink severity : Severity) (message : String) : Output :=
  if sink.admits severity then p.report (.diagnostic severity message) else p

/-- Install a sink: make sure there is a console, and announce it. -/
def install (p : Output) (level : Severity) : Output :=
  (p.ensureConsole level).2.emit level .debug "enabled logging"

end Output

end Loopback.Logging
