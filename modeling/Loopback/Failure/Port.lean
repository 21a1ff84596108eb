import Loopback.Failure.Io
import Loopback.Address
import Loopback.Duration

/-!
# Failures of a port

Why an operation on a port was refused, and how the same failure reads to callers that expect a
failed stream operation or a failed device.
-/

namespace Loopback

/-- Why an operation on a port failed. -/
inductive PortFailure where
  | alreadyOpen
  | notConfigured
  | addressFormat (reason : String)
  | invalidBaudRate (rate : Nat)
  | notOpen
  | writeTimeout (timeout : Duration)
  | io (failure : IoFailure)
deriving DecidableEq, Repr

namespace PortFailure

/-- What an address has to look like. -/
def addressHint : String :=
  "expected a string in the form \"loop://[?logging=\x7bdebug|info|warning|error\x7d]\""

/-- The wording of a failure. -/
def message : PortFailure → String
  | .alreadyOpen => "Port is already open"
  | .notConfigured => "Port must be configured before it can be used"
  | .addressFormat reason => addressHint ++ ": " ++ reason
  | .invalidBaudRate rate => "Invalid baud rate: " ++ Text.decimal rate
  | .notOpen => "Port is not open"
  | .writeTimeout timeout => "Write timeout after " ++ timeout.text
  | .io failure => "I/O error: " ++ failure.message

/-- The failure shown with its parts. -/
def text : PortFailure → String
  | .alreadyOpen => "AlreadyOpen"
  | .notConfigured => "NotConfigured"
  | .addressFormat reason => Text.wrapped "AddressFormat" (Text.quoted reason)
  | .invalidBaudRate rate => Text.wrapped "InvalidBaudRate" (Text.decimal rate)
  | .notOpen => "NotOpen"
  | .writeTimeout timeout => Text.wrapped "WriteTimeout" timeout.text
  | .io failure => Text.wrapped "Io" failure.text

/-- The failure that a fault in an address makes. -/
def ofAddress (fault : Address.Fault) : PortFailure :=
  .addressFormat fault.message

/-- The failure as a stream reports it. One that came from a stream is handed back as it was. -/
def toIo : PortFailure → IoFailure
  | .io failure => failure
  | .notOpen => .custom .notConnected (message .notOpen)
  | .writeTimeout timeout => .custom .timedOut (message (.writeTimeout timeout))
  | .alreadyOpen => .custom .alreadyExists (message .alreadyOpen)
  | .notConfigured => .custom .invalidInput (message .notConfigured)
  | .addressFormat reason => .custom .invalidInput (message (.addressFormat reason))
  | .invalidBaudRate rate => .custom .invalidInput (message (.invalidBaudRate rate))

/-- A stream's wording of a port failure is the port's own. -/
theorem message_toIo {f : PortFailure} (h : ∀ g, f ≠ .io g) : f.toIo.message = f.message := by
  cases f <;> first | rfl | exact absurd rfl (h _)

end PortFailure

/-- The kinds by which a serial device reports a failure. -/
inductive DeviceFailureKind where
  | noDevice
  | invalidInput
  | io (kind : FailureKind)
deriving DecidableEq, Repr

/-- The name of a kind of device failure. -/
def DeviceFailureKind.name : DeviceFailureKind → String
  | .noDevice => "NoDevice"
  | .invalidInput => "InvalidInput"
  | .io kind => Text.wrapped "Io" (Named.name kind)

/-- A failure as a serial device reports it. -/
structure DeviceFailure where
  kind : DeviceFailureKind
  message : String
deriving DecidableEq, Repr

namespace PortFailure

/-- The kind of device failure that a port failure is. -/
def deviceKind : PortFailure → DeviceFailureKind
  | .io failure => .io failure.kind
  | .notOpen => .noDevice
  | .writeTimeout _ => .io .timedOut
  | .alreadyOpen => .io .alreadyExists
  | .notConfigured => .invalidInput
  | .addressFormat _ => .invalidInput
  | .invalidBaudRate _ => .invalidInput

/-- The failure as a serial device reports it. -/
def toDevice (failure : PortFailure) : DeviceFailure :=
  ⟨failure.deviceKind, failure.message⟩

end PortFailure

/-- A baud rate lies above zero and below 2³². -/
def checkBaudRate (rate : Nat) : Except PortFailure UInt32 :=
  if 0 < rate ∧ rate ≤ Text.max32 then .ok (UInt32.ofNat rate) else .error (.invalidBaudRate rate)

/-- A rate is accepted exactly when it lies above zero and below 2³². -/
theorem checkBaudRate_isOk {rate : Nat} :
    (∃ r, checkBaudRate rate = .ok r) ↔ 0 < rate ∧ rate ≤ Text.max32 := by
  unfold checkBaudRate
  split <;> simp_all

end Loopback
