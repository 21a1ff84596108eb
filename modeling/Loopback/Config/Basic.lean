import Loopback.Channel.Builder

/-!
# Configurations

What a channel is to be built from and how events are to be printed, as it stands in a
configuration file. Times are in milliseconds, and an absent timeout waits without end.
-/

namespace Loopback

/-- How events are printed. -/
inductive LogFormat where
  | json
  | pretty
  | compact
deriving DecidableEq, Repr

instance : Named LogFormat where
  all := [.json, .pretty, .compact]
  name
    | .json => "json"
    | .pretty => "pretty"
    | .compact => "compact"

namespace LogFormat

/-- The format of a name, in any case. -/
def read? (text : String) : Option LogFormat :=
  Named.find? (String.ofList (Text.lowered text.toList))

/-- What is said of a name that no format has. -/
def unknownName (text : String) : String :=
  "unknown log format: " ++ String.ofList (Text.lowered text.toList)

end LogFormat

/-- The part of a configuration about the channel. -/
structure ChannelConfig where
  address : String
  capacity : UInt64
  baudRate : UInt32
  readTimeoutMillis : Option UInt64
  writeTimeoutMillis : Option UInt64
  closeSettleMillis : UInt64
  dataBits : DataBits
  parity : Parity
  stopBits : StopBits
  flowControl : FlowControl
deriving DecidableEq

/-- The part of a configuration about printing events. -/
structure LoggingConfig where
  level : String
  format : LogFormat
deriving DecidableEq

/-- A configuration. -/
structure Config where
  channel : ChannelConfig
  logging : LoggingConfig
deriving DecidableEq

namespace ChannelConfig

/-- The channel of a configuration that says nothing of it. -/
def default : ChannelConfig where
  address := "loop://"
  capacity := 4096
  baudRate := PortSettings.defaultBaudRate
  readTimeoutMillis := none
  writeTimeoutMillis := none
  closeSettleMillis := 300
  dataBits := .eight
  parity := .none
  stopBits := .one
  flowControl := .none

/-- A time of so many milliseconds. -/
def duration (millis : UInt64) : Duration := .ofMillis millis.toNat

/-- The settings that the channel is to have. -/
def settings (c : ChannelConfig) : PortSettings where
  baudRate := c.baudRate
  dataBits := c.dataBits
  flowControl := c.flowControl
  parity := c.parity
  stopBits := c.stopBits
  readTimeout := c.readTimeoutMillis.map duration
  writeTimeout := c.writeTimeoutMillis.map duration

/-- What the channel is to be built from. -/
def builder (c : ChannelConfig) : Builder where
  address := some c.address
  capacity := c.capacity.toNat
  settings := c.settings
  closeSettle := duration c.closeSettleMillis

/-- The channel's part shown with all its fields. -/
def text (c : ChannelConfig) : String :=
  let number (n : UInt64) : String := Text.decimal n.toNat
  Text.record "ChannelConfig" [
    ("port", Text.quoted c.address),
    ("capacity", number c.capacity),
    ("baud_rate", Text.decimal c.baudRate.toNat),
    ("read_timeout_ms", Text.optional number c.readTimeoutMillis),
    ("write_timeout_ms", Text.optional number c.writeTimeoutMillis),
    ("close_settle_ms", number c.closeSettleMillis),
    ("data_bits", Named.label c.dataBits),
    ("parity", Named.label c.parity),
    ("stop_bits", Named.label c.stopBits),
    ("flow_control", Named.label c.flowControl)]

end ChannelConfig

namespace LoggingConfig

/-- How events are printed by a configuration that says nothing of it. -/
def default : LoggingConfig := ⟨"info", .pretty⟩

/-- The part about printing shown with its fields. -/
def text (c : LoggingConfig) : String :=
  Text.record "LoggingConfig" [("level", Text.quoted c.level), ("format", Named.label c.format)]

end LoggingConfig

namespace Config

/-- A configuration that says nothing. -/
def default : Config := ⟨.default, .default⟩

/-- The configuration shown with its parts. -/
def text (c : Config) : String :=
  Text.record "Config" [("channel", c.channel.text), ("logging", c.logging.text)]

end Config

end Loopback
