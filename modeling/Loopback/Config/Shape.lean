import Loopback.Config.Basic
import Loopback.Misfit
import Loopback.Toml.Document

/-!
# Configurations in TOML documents

The tables `channel` and `logging` of a document, with the fields of a configuration. What is
absent keeps its default, and what is not known is passed over. A table may also be written as an
array of its fields in order. Fields are looked at in the order in which they stand in the
document, so the first fault is the one that is met first.
-/

namespace Loopback.Toml

/-- What a value is called in a message. -/
def found : Toml → String
  | .string value => Misfit.foundString value
  | .integer value => Misfit.foundInteger value
  | .float value => Misfit.foundReal value.plain
  | .boolean value => Misfit.foundBool value
  | .datetime => "map"
  | .array _ => "sequence"
  | .tables _ => "sequence"
  | .table _ => "map"

/-- A whole number from zero to a bound; `width` names its type in messages. -/
def toNatural (bound : Nat) (width : String) (value : Toml) : Except Misfit Nat :=
  match value with
  | .integer n =>
    if 0 ≤ n ∧ n ≤ bound then .ok n.toNat else .error (.wrongValue value.found width)
  | other => .error (.wrongType other.found width)

/-- A whole number of 64 bits; `width` names its type in messages. -/
def toUInt64 (width : String) (value : Toml) : Except Misfit UInt64 :=
  (value.toNatural Text.max64 width).map UInt64.ofNat

/-- A whole number of 32 bits. -/
def toUInt32 (value : Toml) : Except Misfit UInt32 :=
  (value.toNatural Text.max32 "u32").map UInt32.ofNat

/-- A text. -/
def toText : Toml → Except Misfit String
  | .string value => .ok value
  | other => .error (.wrongType other.found "a string")

/-- A value that says nothing more, as the content of a name has to be. -/
def isNothing : Toml → Except Misfit Unit
  | .tables items => if items.isEmpty then .ok () else .error .notEmptyArray
  | .array items => if items.isEmpty then .ok () else .error .notEmptyTable
  | .table entries => if entries.isEmpty then .ok () else .error .notEmptyTable
  | other => .error (.notTable other.kindName)

/-- The value of a name. -/
def named (α : Type) [Named α] (name : String) : Except Misfit α :=
  match Named.find? name with
  | some value => .ok value
  | none => .error (.unknownVariant name (Named.names α))

/-- A value that goes by a name, or is a table with nothing in it but an empty table under that
name. -/
def toNamed (α : Type) [Named α] : Toml → Except Misfit α
  | .string name => named α name
  | .table [] => .error .noElement
  | .table [(name, content)] => do
    let value ← named α name
    isNothing content
    pure value
  | .table _ => .error .manyElements
  | _ => .error .notStringOrTable

end Loopback.Toml

namespace Loopback

namespace ChannelConfig

/-- The names of the fields, in order. -/
def fields : List String :=
  ["port", "capacity", "baud_rate", "read_timeout_ms", "write_timeout_ms", "close_settle_ms",
   "data_bits", "parity", "stop_bits", "flow_control"]

/-- Set one field; another name is passed over. -/
def setField (c : ChannelConfig) (name : String) (value : Toml) : Except Misfit ChannelConfig := do
  if name = "port" then return { c with address := ← value.toText }
  else if name = "capacity" then return { c with capacity := ← value.toUInt64 "usize" }
  else if name = "baud_rate" then return { c with baudRate := ← value.toUInt32 }
  else if name = "read_timeout_ms" then
    return { c with readTimeoutMillis := some (← value.toUInt64 "u64") }
  else if name = "write_timeout_ms" then
    return { c with writeTimeoutMillis := some (← value.toUInt64 "u64") }
  else if name = "close_settle_ms" then
    return { c with closeSettleMillis := ← value.toUInt64 "u64" }
  else if name = "data_bits" then return { c with dataBits := ← value.toNamed DataBits }
  else if name = "parity" then return { c with parity := ← value.toNamed Parity }
  else if name = "stop_bits" then return { c with stopBits := ← value.toNamed StopBits }
  else if name = "flow_control" then return { c with flowControl := ← value.toNamed FlowControl }
  else return c

end ChannelConfig

namespace LoggingConfig

/-- The names of the fields, in order. -/
def fields : List String := ["level", "format"]

/-- Set one field; another name is passed over. -/
def setField (c : LoggingConfig) (name : String) (value : Toml) : Except Misfit LoggingConfig := do
  if name = "level" then return { c with level := ← value.toText }
  else if name = "format" then return { c with format := ← value.toNamed LogFormat }
  else return c

end LoggingConfig

/-- Read a record from a table, or from an array of its fields in order. A date is taken for a
table of which nothing is known. -/
def Toml.toRecord {α : Type} (title : String) (fields : List String) (start : α)
    (set : α → String → Toml → Except Misfit α) : Toml → Except Misfit α
  | .table entries => entries.foldlM (fun c (name, value) => set c name value) start
  | .array items => (fields.zip items).foldlM (fun c (name, value) => set c name value) start
  | .tables items => (fields.zip items).foldlM (fun c (name, value) => set c name value) start
  | .datetime => .ok start
  | other => .error (.wrongType other.found title)

namespace Config

/-- Read one part of a configuration; another name is passed over. -/
def setPart (c : Config) (name : String) (value : Toml) : Except Misfit Config := do
  if name = "channel" then
    return { c with
      channel := ← value.toRecord "struct ChannelConfig" ChannelConfig.fields .default
        ChannelConfig.setField }
  else if name = "logging" then
    return { c with
      logging := ← value.toRecord "struct LoggingConfig" LoggingConfig.fields .default
        LoggingConfig.setField }
  else return c

/-- The configuration that the entries of a document make up. -/
def ofEntries (entries : List (String × Toml)) : Except Misfit Config :=
  entries.foldlM (fun c (name, value) => setPart c name value) .default

end Config

end Loopback
