import Loopback.Config.Basic
import Loopback.Toml.Writer

/-!
# Writing configurations

A configuration as a document of two tables. Absent timeouts are left out. A number that is too
large for a signed number of 64 bits cannot be written, and then nothing is.
-/

namespace Loopback

/-- One line that sets a key. -/
def configLine (key : String) (value : List Char) : List Char :=
  key.toList ++ [' ', '=', ' '] ++ value ++ ['\n']

/-- A line that sets a key to a text. -/
def textLine (key value : String) : List Char :=
  configLine key (Toml.writeString value.toList)

/-- A line that sets a key to a number. -/
def numberLine (key : String) (value : Nat) : List Char :=
  configLine key (Nat.toDigits 10 value)

/-- A line that sets a key to a number, if there is one. -/
def numberLine? (key : String) : Option UInt64 → List Char
  | some value => numberLine key value.toNat
  | none => []

/-- A line that sets a key to a value that goes by a name. -/
def namedLine {α : Type} [Named α] (key : String) (value : α) : List Char :=
  textLine key (Named.name value)

/-- Whether a number can be written. -/
def isWritable (value : UInt64) : Bool := value.toNat ≤ Text.maxSigned64

namespace ChannelConfig

/-- Whether all numbers can be written. -/
def isWritable (c : ChannelConfig) : Bool :=
  Loopback.isWritable c.capacity && c.readTimeoutMillis.all Loopback.isWritable &&
    c.writeTimeoutMillis.all Loopback.isWritable && Loopback.isWritable c.closeSettleMillis

/-- The lines of the channel's part. -/
def lines (c : ChannelConfig) : List Char :=
  textLine "port" c.address ++
    numberLine "capacity" c.capacity.toNat ++
    numberLine "baud_rate" c.baudRate.toNat ++
    numberLine? "read_timeout_ms" c.readTimeoutMillis ++
    numberLine? "write_timeout_ms" c.writeTimeoutMillis ++
    numberLine "close_settle_ms" c.closeSettleMillis.toNat ++
    namedLine "data_bits" c.dataBits ++
    namedLine "parity" c.parity ++
    namedLine "stop_bits" c.stopBits ++
    namedLine "flow_control" c.flowControl

end ChannelConfig

/-- The lines of the part about printing events. -/
def LoggingConfig.lines (c : LoggingConfig) : List Char :=
  textLine "level" c.level ++ namedLine "format" c.format

namespace Config

/-- The document of a configuration. -/
def document (c : Config) : List Char :=
  "[channel]\n".toList ++ c.channel.lines ++ "\n[logging]\n".toList ++ c.logging.lines

/-- The document of a configuration, if it can be written. -/
def write? (c : Config) : Option (List Char) :=
  if c.channel.isWritable then some c.document else none

end Config

end Loopback
