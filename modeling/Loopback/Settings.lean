import Loopback.Duration
import Loopback.Named
import Loopback.Number.Binary64

/-!
# Port settings

What a serial port is set to: the baud rate, how characters are framed, and how long a read or a
write may wait. A loopback acts on the baud rate and the timeouts only; it keeps the rest.

The advisory duration of a payload is the time it would take on a wire at ten bits a byte. It is
worked out in binary floating point, product first and then quotient, and rounded to whole
nanoseconds, half to even.
-/

namespace Loopback

/-- How many data bits a character has. -/
inductive DataBits where
  | five
  | six
  | seven
  | eight
deriving DecidableEq, Repr

instance : Named DataBits where
  all := [.five, .six, .seven, .eight]
  name
    | .five => "five"
    | .six => "six"
    | .seven => "seven"
    | .eight => "eight"

/-- How the two ends hold each other back. -/
inductive FlowControl where
  | none
  | software
  | hardware
deriving DecidableEq, Repr

instance : Named FlowControl where
  all := [.none, .software, .hardware]
  name
    | .none => "none"
    | .software => "software"
    | .hardware => "hardware"

/-- How characters are checked. -/
inductive Parity where
  | none
  | odd
  | even
deriving DecidableEq, Repr

instance : Named Parity where
  all := [.none, .odd, .even]
  name
    | .none => "none"
    | .odd => "odd"
    | .even => "even"

/-- How many bits end a character. -/
inductive StopBits where
  | one
  | two
deriving DecidableEq, Repr

instance : Named StopBits where
  all := [.one, .two]
  name
    | .one => "one"
    | .two => "two"

/-- The settings of a port. A timeout that is absent waits without end. -/
structure PortSettings where
  baudRate : UInt32
  dataBits : DataBits
  flowControl : FlowControl
  parity : Parity
  stopBits : StopBits
  readTimeout : Option Duration
  writeTimeout : Option Duration
deriving DecidableEq

namespace PortSettings

/-- The baud rate of a port that was given none. -/
def defaultBaudRate : UInt32 := 9600

/-- The customary baud rates, lowest first. -/
def standardBaudRates : List UInt32 :=
  [50, 75, 110, 134, 150, 200, 300, 600, 1200, 1800, 2400, 4800, 9600, 19200, 38400, 57600, 115200]

/-- The settings of a port that was given none: 9600 baud, 8N1, no timeouts. -/
def default : PortSettings where
  baudRate := defaultBaudRate
  dataBits := .eight
  flowControl := .none
  parity := .none
  stopBits := .one
  readTimeout := none
  writeTimeout := none

/-- Whether the baud rate is a customary one. -/
def isStandard (settings : PortSettings) : Bool :=
  standardBaudRates.contains settings.baudRate

/-- The settings shown with all their fields. -/
def text (settings : PortSettings) : String :=
  Text.record "PortSettings" [
    ("baud_rate", Text.decimal settings.baudRate.toNat),
    ("data_bits", Named.label settings.dataBits),
    ("flow_control", Named.label settings.flowControl),
    ("parity", Named.label settings.parity),
    ("stop_bits", Named.label settings.stopBits),
    ("read_timeout", Text.optional Duration.text settings.readTimeout),
    ("write_timeout", Text.optional Duration.text settings.writeTimeout)]

end PortSettings

/-- The seconds that `length` bytes take at `baud`, in floating-point units. Ten bits a byte are
counted first; each of the three operations rounds. -/
def transmitUnits (baud length : Nat) : Nat :=
  let bytes := Number.nearestUnits length 1
  let bits := Number.nearestUnits (10 * bytes) Number.unitsPerOne
  Number.nearestUnits bits (Number.unitsPerOne * baud)

/-- The advisory duration of `length` bytes at `baud`. There is none at baud rate zero, nor if
it comes to 2⁶⁴ seconds. -/
def transmitDuration? (baud : UInt32) (length : Nat) : Option Duration :=
  if baud = 0 then none
  else
    let units := transmitUnits baud.toNat length
    if units < (Text.max64 + 1) * Number.unitsPerOne then
      some ⟨Number.halfEven (units * Duration.nanosPerSecond) Number.unitsPerOne⟩
    else none

/-- What is said where there is no advisory duration. -/
def noTransmitDuration : String :=
  "cannot convert float seconds to Duration: value is either too big or NaN"

namespace PortSettings

/-- The advisory duration of a payload under these settings. -/
def transmitDuration? (settings : PortSettings) (length : Nat) : Option Duration :=
  Loopback.transmitDuration? settings.baudRate length

end PortSettings

end Loopback
