import Loopback.Channel.Basic

/-!
# Control lines

The two output lines of a loopback come back as its two input lines. Nobody can ring it, and a
carrier is always there. The break condition changes nothing in the flow of data.
-/

namespace Loopback.Channel

variable {ε : Type}

/-- Set Request To Send. -/
def setRequestToSend (level : Bool) : Program ε Unit := do
  .perform (.setLine .requestToSend level)
  Program.note .info ("set_rts(" ++ Text.truth level ++ ") -> state of CTS")

/-- Set Data Terminal Ready. -/
def setDataTerminalReady (level : Bool) : Program ε Unit := do
  .perform (.setLine .dataTerminalReady level)
  Program.note .info ("set_dtr(" ++ Text.truth level ++ ") -> state of DSR")

/-- Clear To Send, which is Request To Send. -/
def clearToSend : Operation Bool := do
  ensureOpen
  let level ← Program.getLine .requestToSend
  Program.note .info ("cts() -> state of RTS (" ++ Text.truth level ++ ")")
  pure level

/-- Data Set Ready, which is Data Terminal Ready. -/
def dataSetReady : Operation Bool := do
  ensureOpen
  let level ← Program.getLine .dataTerminalReady
  Program.note .info ("dsr() -> state of DTR (" ++ Text.truth level ++ ")")
  pure level

/-- Ring Indicator. -/
def ringIndicator : Program ε Bool := do
  Program.note .info "returning dummy for ri()"
  pure false

/-- Carrier Detect. -/
def carrierDetect : Program ε Bool := do
  Program.note .info "returning dummy for cd()"
  pure true

/-- Set the break condition. -/
def setBreak (level : Bool) : Program ε Unit := do
  .perform (.setLine .breakCondition level)
  Program.note .info ("set_break(" ++ Text.truth level ++ ")")

/-- Hold the break condition for some time. -/
def sendBreak (duration : Duration) : Operation Unit := do
  ensureOpen
  setBreak true
  Program.sleep duration
  setBreak false

end Loopback.Channel
