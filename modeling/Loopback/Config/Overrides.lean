import Loopback.Config.Failure
import Loopback.Host.Basic
import Loopback.Text.Cut

/-!
# Overrides from the environment

Variables of the environment that replace single fields of a configuration. They are applied in a
fixed order up to the first whose value does not parse. Blanks around a value do not count.
-/

namespace Loopback

/-- What an override comes to: the configuration as far as it was changed, and the failure of the
first value that does not parse. -/
structure Overridden where
  config : Config
  failure : Option ConfigFailure

/-- A variable that overrides a field: its name, what its value has to be, and how the field is
set to it. -/
structure Override where
  name : String
  expected : String
  apply : List Char → Config → Option Config

namespace Override

/-- A number of 64 bits. -/
def readUInt64? (text : List Char) : Option UInt64 :=
  match Text.readNatural Text.max64 text with
  | .ok n => some (UInt64.ofNat n)
  | .error _ => none

/-- A number of 32 bits. -/
def readUInt32? (text : List Char) : Option UInt32 :=
  match Text.readNatural Text.max32 text with
  | .ok n => some (UInt32.ofNat n)
  | .error _ => none

/-- Whether a text says that there is no timeout. -/
def meansNone (text : List Char) : Bool :=
  text == [] || Text.sameLetters text "none".toList || Text.sameLetters text "off".toList

/-- A timeout in milliseconds, or none. -/
def readTimeout? (text : List Char) : Option (Option UInt64) :=
  if meansNone text then some none else (readUInt64? text).map some

/-- Change the channel's part. -/
def onChannel {α : Type} (read : List Char → Option α) (set : α → ChannelConfig → ChannelConfig)
    (text : List Char) (c : Config) : Option Config :=
  (read text).map fun value => { c with channel := set value c.channel }

/-- Change the part about printing events. -/
def onLogging {α : Type} (read : List Char → Option α) (set : α → LoggingConfig → LoggingConfig)
    (text : List Char) (c : Config) : Option Config :=
  (read text).map fun value => { c with logging := set value c.logging }

/-- Any text. -/
def readText (text : List Char) : Option String := some (String.ofList text)

/-- All overrides, in the order in which they are applied. -/
def all : List Override := [
  ⟨"LOOP_SERIAL_CHANNEL_PORT", "address",
    onChannel readText fun value c => { c with address := value }⟩,
  ⟨"LOOP_SERIAL_CHANNEL_CAPACITY", "capacity",
    onChannel readUInt64? fun value c => { c with capacity := value }⟩,
  ⟨"LOOP_SERIAL_CHANNEL_BAUD_RATE", "baud rate",
    onChannel readUInt32? fun value c => { c with baudRate := value }⟩,
  ⟨"LOOP_SERIAL_CHANNEL_READ_TIMEOUT_MS", "timeout in milliseconds",
    onChannel readTimeout? fun value c => { c with readTimeoutMillis := value }⟩,
  ⟨"LOOP_SERIAL_CHANNEL_WRITE_TIMEOUT_MS", "timeout in milliseconds",
    onChannel readTimeout? fun value c => { c with writeTimeoutMillis := value }⟩,
  ⟨"LOOP_SERIAL_CHANNEL_CLOSE_SETTLE_MS", "settle time in milliseconds",
    onChannel readUInt64? fun value c => { c with closeSettleMillis := value }⟩,
  ⟨"LOOP_SERIAL_LOGGING_LEVEL", "filter directive",
    onLogging readText fun value c => { c with level := value }⟩,
  ⟨"LOOP_SERIAL_LOGGING_FORMAT", "log format",
    onLogging (fun text => LogFormat.read? (String.ofList text))
      fun value c => { c with format := value }⟩]

/-- Apply one override, if its variable is set to a text. -/
def run (o : Override) (env : Environment) (c : Config) : Except ConfigFailure Config :=
  match env.text? o.name with
  | none => .ok c
  | some value =>
    match o.apply (Text.trim value.toList) c with
    | some c => .ok c
    | none => .error (.environment o.name value o.expected)

/-- Apply overrides in turn, up to the first that fails. -/
def runAll (env : Environment) : List Override → Config → Overridden
  | [], c => ⟨c, none⟩
  | o :: rest, c =>
    match o.run env c with
    | .ok c => runAll env rest c
    | .error failure => ⟨c, some failure⟩

end Override

namespace Config

/-- The configuration with the overrides of an environment. -/
def overridden (c : Config) (env : Environment) : Overridden := Override.runAll env Override.all c

end Config

end Loopback
