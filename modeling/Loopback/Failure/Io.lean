import Loopback.Failure.System

/-!
# Failures of input and output

A failure is a code of the system, or a kind with a message. Two messages of one kind may have
different makers: a failure that this library states in fixed words is shown differently from
one that was built around a text.
-/

namespace Loopback

/-- A failed input or output operation. -/
inductive IoFailure where
  | system (code : Int)
  | stated (kind : FailureKind) (message : String)
  | custom (kind : FailureKind) (message : String)
deriving DecidableEq, Repr

namespace IoFailure

/-- The kind of a failure. -/
def kind : IoFailure → FailureKind
  | .system code => SystemCode.kind code
  | .stated kind _ => kind
  | .custom kind _ => kind

/-- The wording of a failure. -/
def message : IoFailure → String
  | .system code => SystemCode.text code
  | .stated _ message => message
  | .custom _ message => message

/-- The failure shown with all its parts. -/
def text : IoFailure → String
  | .system code => Text.record "Os" [
      ("code", Text.signedDecimal code),
      ("kind", Named.name (SystemCode.kind code)),
      ("message", Text.quoted (SystemCode.meaning code))]
  | .stated kind message => Text.record "Error" [
      ("kind", Named.name kind), ("message", Text.quoted message)]
  | .custom kind message => Text.record "Custom" [
      ("kind", Named.name kind), ("error", Text.quoted message)]

/-- The failure to read the number of bytes asked for. -/
def unexpectedEnd : IoFailure := .stated .unexpectedEof "failed to fill whole buffer"

/-- The failure of a writer that takes no byte. -/
def nothingWritten : IoFailure := .stated .writeZero "failed to write whole buffer"

/-- The failure to read text from octets that encode none. -/
def notText : IoFailure := .stated .invalidData "stream did not contain valid UTF-8"

/-- The failure of a path that holds a zero character. -/
def zeroInPath : IoFailure :=
  .stated .invalidInput "file name contained an unexpected NUL byte"

end IoFailure

end Loopback
