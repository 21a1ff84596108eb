import Loopback.Json.Shape
import Loopback.Settings

/-!
# Durations and port settings as JSON

A duration is an object of seconds and nanoseconds; settings are an object of their fields, and
either may also be a list in the order of its fields. Members are looked at in rising order of
their names, so the first of several faults is the one with the least name; a missing field is
noticed after that.
-/

namespace Loopback

namespace Duration

/-- The fields of a duration. -/
def fields : List String := ["secs", "nanos"]

/-- A duration of parts, unless it is longer than any. -/
def ofParts? (secs nanos : Nat) : Except Misfit Duration :=
  if secs + nanos / nanosPerSecond ≤ Text.max64 then .ok (ofParts secs nanos)
  else .error .durationOverflow

/-- Read the members of a duration, onto the parts read so far. -/
def readMembers : Option Nat → Option Nat → List (String × Json) → Except Misfit Duration
  | secs, nanos, [] => do
    let secs ← Json.required "secs" secs
    let nanos ← Json.required "nanos" nanos
    ofParts? secs nanos
  | secs, nanos, (name, value) :: rest => do
    if name = "secs" then
      let n ← value.toNatural Text.max64 "u64"
      readMembers (some n) nanos rest
    else if name = "nanos" then
      let n ← value.toNatural Text.max32 "u32"
      readMembers secs (some n) rest
    else .error (.unknownField name fields)

/-- Read a duration. -/
def ofJson (json : Json) : Except Misfit Duration :=
  match json with
  | .object members => readMembers none none (Json.sortedMembers members)
  | .list [] => .error (.wrongLength 0 "struct Duration")
  | .list [secs] => do
    let _ ← secs.toNatural Text.max64 "u64"
    .error (.wrongLength 1 "struct Duration")
  | .list (secs :: nanos :: rest) => do
    let secs ← secs.toNatural Text.max64 "u64"
    let nanos ← nanos.toNatural Text.max32 "u32"
    let duration ← ofParts? secs nanos
    if rest = [] then .ok duration
    else .error (.wrongLength (2 + rest.length) "fewer elements in array")
  | other => .error (.wrongType other.found "struct Duration")

/-- A duration as an object of its parts. -/
def toJson (d : Duration) : Json :=
  .object [("secs", .natural d.secs), ("nanos", .natural d.subsecNanos)]

end Duration

namespace PortSettings

/-- Settings some of whose fields have been read. A timeout may have been read as absent. -/
structure Draft where
  baudRate : Option Nat := none
  dataBits : Option DataBits := none
  flowControl : Option FlowControl := none
  parity : Option Parity := none
  stopBits : Option StopBits := none
  readTimeout : Option Duration := none
  writeTimeout : Option Duration := none

/-- Read a timeout, which may be null. -/
def readTimeoutJson : Json → Except Misfit (Option Duration)
  | .null => .ok none
  | other => (Duration.ofJson other).map some

/-- Read one field; a member of another name is passed over. -/
def Draft.set (draft : Draft) (name : String) (value : Json) : Except Misfit Draft := do
  if name = "baud_rate" then
    return { draft with baudRate := some (← value.toNatural Text.max32 "u32") }
  else if name = "data_bits" then
    return { draft with dataBits := some (← value.toNamed DataBits) }
  else if name = "flow_control" then
    return { draft with flowControl := some (← value.toNamed FlowControl) }
  else if name = "parity" then
    return { draft with parity := some (← value.toNamed Parity) }
  else if name = "stop_bits" then
    return { draft with stopBits := some (← value.toNamed StopBits) }
  else if name = "read_timeout" then
    return { draft with readTimeout := ← readTimeoutJson value }
  else if name = "write_timeout" then
    return { draft with writeTimeout := ← readTimeoutJson value }
  else return draft

/-- The settings of a draft that has every field but timeouts. -/
def Draft.finish (draft : Draft) : Except Misfit PortSettings := do
  let baudRate ← Json.required "baud_rate" draft.baudRate
  let dataBits ← Json.required "data_bits" draft.dataBits
  let flowControl ← Json.required "flow_control" draft.flowControl
  let parity ← Json.required "parity" draft.parity
  let stopBits ← Json.required "stop_bits" draft.stopBits
  return ⟨UInt32.ofNat baudRate, dataBits, flowControl, parity, stopBits, draft.readTimeout,
    draft.writeTimeout⟩

/-- The fields of settings, in the order of a list. -/
def fields : List String :=
  ["baud_rate", "data_bits", "flow_control", "parity", "stop_bits", "read_timeout", "write_timeout"]

/-- Read fields in the order of a list; `count` of them have been read. -/
def Draft.setInOrder (draft : Draft) (count : Nat) :
    List String → List Json → Except Misfit (Draft × List Json)
  | [], rest => .ok (draft, rest)
  | _ :: _, [] => .error (.wrongLength count "struct PortSettings with 7 elements")
  | name :: names, value :: values => do
    let draft ← draft.set name value
    draft.setInOrder (count + 1) names values

/-- Read settings. -/
def ofJson (json : Json) : Except Misfit PortSettings :=
  match json with
  | .object members => do
    let draft ← (Json.sortedMembers members).foldlM
      (fun (draft : Draft) (name, value) => draft.set name value) {}
    draft.finish
  | .list items => do
    let (draft, rest) ← Draft.setInOrder {} 0 fields items
    let settings ← draft.finish
    if rest.isEmpty then .ok settings
    else .error (.wrongLength items.length "fewer elements in array")
  | other => .error (.wrongType other.found "struct PortSettings")

/-- Settings as an object of their fields. -/
def toJson (settings : PortSettings) : Json :=
  .object [
    ("baud_rate", .natural settings.baudRate.toNat),
    ("data_bits", .string (Named.name settings.dataBits)),
    ("flow_control", .string (Named.name settings.flowControl)),
    ("parity", .string (Named.name settings.parity)),
    ("stop_bits", .string (Named.name settings.stopBits)),
    ("read_timeout", Json.optional Duration.toJson settings.readTimeout),
    ("write_timeout", Json.optional Duration.toJson settings.writeTimeout)]

end PortSettings

end Loopback
