import Loopback.Config.Shape
import Mathlib.Data.List.Induction

/-!
# What a document says of a configuration

Each field of a configuration is what the entry under its key is read as, or its default where there is no
such entry, and nothing else in the document matters: entries under other keys may be left out. Entries are
read one after the other, so a field is followed through them: an entry under its key sets it, and an entry
under another key leaves it alone.
-/

namespace Loopback

/-- What succeeds after a check finds that check to have succeeded. -/
theorem exists_ok_of_bind {ε α β : Type} {check : Except ε α} {rest : α → Except ε β} {result : β}
    (h : check >>= rest = .ok result) : ∃ a, check = .ok a ∧ rest a = .ok result := by
  cases check with
  | error => cases h
  | ok a => exact ⟨a, rfl, h⟩

/-- A value made from the result of a check where a condition holds, or else come by otherwise. -/
theorem ok_of_ite {ε α β : Type} {p : Prop} [Decidable p] {check : Except ε α} {make : α → β}
    {other : Except ε β} {result : β}
    (h : (if p then (do return make (← check)) else other) = .ok result) :
    (p ∧ ∃ a, check = .ok a ∧ make a = result) ∨ (¬ p ∧ other = .ok result) := by
  split at h
  next hp =>
    obtain ⟨a, ha, hmade⟩ := exists_ok_of_bind h
    exact .inl ⟨hp, a, ha, Except.ok.inj hmade⟩
  next hp => exact .inr ⟨hp, h⟩

namespace Toml

/-- The members of a record: those of a table, or those of an array under the names in order. -/
def members (names : List String) : Toml → List (String × Toml)
  | .table entries => entries
  | .array items => names.zip items
  | .tables items => names.zip items
  | _ => []

/-- The members of a part of a document; where the part is absent there are none. -/
def membersOf (entries : List (String × Toml)) (part : String) (names : List String) : List (String × Toml) :=
  ((entries.reverse.lookup part).map (members names)).getD []

/-- The entries under some keys. -/
def under (keys : List String) (entries : List (String × Toml)) : List (String × Toml) :=
  entries.filter (·.1 ∈ keys)

/-- The value with only the entries under some keys, if it is a table. -/
def onlyUnder (keys : List String) : Toml → Toml
  | .table entries => .table (under keys entries)
  | other => other

/-- A field is what the entry under its key is read as, or its default where there is none. The last entry
counts, if there could be more than one. -/
def Field {α : Type} (entries : List (String × Toml)) (key : String) (read : Toml → Except Misfit α)
    (default value : α) : Prop :=
  match entries.reverse.lookup key with
  | none => value = default
  | some found => read found = .ok value

section fields

variable {α β : Type} {entries : List (String × Toml)} {key : String} {read : Toml → Except Misfit β}
  {set : α → String → Toml → Except Misfit α} {get : α → β} {start result : α}

/-- What an entry does to a field: one under its key sets it, any other leaves it alone. -/
def Sets (set : α → String → Toml → Except Misfit α) (key : String) (read : Toml → Except Misfit β)
    (get : α → β) : Prop :=
  ∀ c name value c', set c name value = .ok c' →
    if name = key then read value = .ok (get c') else get c' = get c

/-- A field that single entries set is what the entries together make of it. -/
theorem field_of_foldlM (hset : Sets set key read get)
    (h : entries.foldlM (fun c (entry : String × Toml) => set c entry.1 entry.2) start = .ok result) :
    Field entries key read (get start) (get result) := by
  induction entries using List.reverseRecOn generalizing result with
  | nil =>
    cases h
    exact rfl
  | append_singleton entries entry ih =>
    rw [List.foldlM_append] at h
    obtain ⟨before, hbefore, hlast⟩ := exists_ok_of_bind h
    obtain ⟨after, hafter, hdone⟩ := exists_ok_of_bind hlast
    cases hdone
    have hentry := hset _ _ _ _ hafter
    unfold Field
    rw [List.reverse_append, List.reverse_singleton, List.singleton_append, List.lookup_cons]
    by_cases hkey : entry.1 = key
    · simpa [hkey] using hentry
    · have hother : (key == entry.1) = false := by simpa using Ne.symm hkey
      rw [if_neg hkey] at hentry
      rw [hother, hentry]
      exact ih hbefore

/-- Entries that change nothing may be left out. -/
theorem foldlM_under {keys : List String}
    (hset : ∀ c name value, name ∉ keys → set c name value = .ok c) :
    (under keys entries).foldlM (fun c (entry : String × Toml) => set c entry.1 entry.2) start =
      entries.foldlM (fun c (entry : String × Toml) => set c entry.1 entry.2) start := by
  induction entries generalizing start with
  | nil => rfl
  | cons entry entries ih =>
    by_cases hmem : entry.1 ∈ keys
    · simp only [under, List.filter_cons, hmem, decide_true, if_true, List.foldlM_cons]
      exact congrArg _ (funext fun c => ih)
    · simp only [under, List.filter_cons, hmem, decide_false, List.foldlM_cons, hset _ _ _ hmem]
      exact ih

/-- A part of a document is read from its members. -/
theorem foldlM_membersOf {title part : String} {names : List String}
    (h : Field entries part (fun value => value.toRecord title names start set) start result) :
    (membersOf entries part names).foldlM (fun c (entry : String × Toml) => set c entry.1 entry.2) start =
      .ok result := by
  unfold Field at h
  unfold membersOf
  split at h
  next hnone =>
    rw [hnone, h]
    rfl
  next value hsome =>
    rw [hsome]
    cases value <;> first | exact h | cases h

/-- A record is read the same without the entries under keys that are not known. -/
theorem toRecord_onlyUnder (title : String) {names : List String}
    (hset : ∀ c name value, name ∉ names → set c name value = .ok c) (value : Toml) :
    (value.onlyUnder names).toRecord title names start set = value.toRecord title names start set := by
  cases value with
  | table entries => exact foldlM_under hset
  | _ => rfl

end fields

end Toml

namespace ChannelConfig

/-- What an entry can make of the channel's part. -/
inductive Set (c : ChannelConfig) (value : Toml) : String → ChannelConfig → Prop where
  | port {x : String} (h : value.toText = .ok x) : Set c value "port" { c with address := x }
  | capacity {x : UInt64} (h : value.toUInt64 "usize" = .ok x) :
      Set c value "capacity" { c with capacity := x }
  | baudRate {x : UInt32} (h : value.toUInt32 = .ok x) : Set c value "baud_rate" { c with baudRate := x }
  | readTimeout {x : UInt64} (h : value.toUInt64 "u64" = .ok x) :
      Set c value "read_timeout_ms" { c with readTimeoutMillis := some x }
  | writeTimeout {x : UInt64} (h : value.toUInt64 "u64" = .ok x) :
      Set c value "write_timeout_ms" { c with writeTimeoutMillis := some x }
  | closeSettle {x : UInt64} (h : value.toUInt64 "u64" = .ok x) :
      Set c value "close_settle_ms" { c with closeSettleMillis := x }
  | dataBits {x : DataBits} (h : value.toNamed DataBits = .ok x) :
      Set c value "data_bits" { c with dataBits := x }
  | parity {x : Parity} (h : value.toNamed Parity = .ok x) : Set c value "parity" { c with parity := x }
  | stopBits {x : StopBits} (h : value.toNamed StopBits = .ok x) :
      Set c value "stop_bits" { c with stopBits := x }
  | flowControl {x : FlowControl} (h : value.toNamed FlowControl = .ok x) :
      Set c value "flow_control" { c with flowControl := x }
  | unknown {name : String} (h : name ∉ fields) : Set c value name c

/-- A field of the channel that is set has the value that was read for it. -/
theorem set_of_setField {c c' : ChannelConfig} {name : String} {value : Toml}
    (h : c.setField name value = .ok c') : c.Set value name c' := by
  unfold setField at h
  rcases ok_of_ite h with ⟨rfl, x, hx, rfl⟩ | ⟨hport, h⟩
  · exact .port hx
  rcases ok_of_ite h with ⟨rfl, x, hx, rfl⟩ | ⟨hcapacity, h⟩
  · exact .capacity hx
  rcases ok_of_ite h with ⟨rfl, x, hx, rfl⟩ | ⟨hbaud, h⟩
  · exact .baudRate hx
  rcases ok_of_ite h with ⟨rfl, x, hx, rfl⟩ | ⟨hread, h⟩
  · exact .readTimeout hx
  rcases ok_of_ite h with ⟨rfl, x, hx, rfl⟩ | ⟨hwrite, h⟩
  · exact .writeTimeout hx
  rcases ok_of_ite h with ⟨rfl, x, hx, rfl⟩ | ⟨hsettle, h⟩
  · exact .closeSettle hx
  rcases ok_of_ite h with ⟨rfl, x, hx, rfl⟩ | ⟨hdata, h⟩
  · exact .dataBits hx
  rcases ok_of_ite h with ⟨rfl, x, hx, rfl⟩ | ⟨hparity, h⟩
  · exact .parity hx
  rcases ok_of_ite h with ⟨rfl, x, hx, rfl⟩ | ⟨hstop, h⟩
  · exact .stopBits hx
  rcases ok_of_ite h with ⟨rfl, x, hx, rfl⟩ | ⟨hflow, h⟩
  · exact .flowControl hx
  cases h
  exact .unknown (by simp [fields, *])

/-- What the members of the channel's part make of it. -/
structure Reads (entries : List (String × Toml)) (c : ChannelConfig) : Prop where
  address : Toml.Field entries "port" Toml.toText "loop://" c.address
  capacity : Toml.Field entries "capacity" (Toml.toUInt64 "usize") 4096 c.capacity
  baudRate : Toml.Field entries "baud_rate" Toml.toUInt32 9600 c.baudRate
  readTimeout : Toml.Field entries "read_timeout_ms" (fun value => (value.toUInt64 "u64").map some) none
    c.readTimeoutMillis
  writeTimeout : Toml.Field entries "write_timeout_ms" (fun value => (value.toUInt64 "u64").map some) none
    c.writeTimeoutMillis
  closeSettle : Toml.Field entries "close_settle_ms" (Toml.toUInt64 "u64") 300 c.closeSettleMillis
  dataBits : Toml.Field entries "data_bits" (Toml.toNamed DataBits) .eight c.dataBits
  parity : Toml.Field entries "parity" (Toml.toNamed Parity) .none c.parity
  stopBits : Toml.Field entries "stop_bits" (Toml.toNamed StopBits) .one c.stopBits
  flowControl : Toml.Field entries "flow_control" (Toml.toNamed FlowControl) .none c.flowControl

/-- The channel reads what the entries say, one after the other. -/
theorem reads_of_foldlM {entries : List (String × Toml)} {c : ChannelConfig}
    (h : entries.foldlM (fun c (entry : String × Toml) => setField c entry.1 entry.2) default = .ok c) :
    c.Reads entries := by
  constructor
  all_goals
    refine Toml.field_of_foldlM (fun _ name _ _ hset => ?_) h
    cases set_of_setField hset with
    | unknown hname =>
      rw [if_neg fun hkey => hname (by rw [hkey]; decide)]
    | _ hx => simp [hx, Except.map]

/-- A key that is no field of the channel is passed over. -/
theorem setField_of_notMem {c : ChannelConfig} {name : String} {value : Toml} (h : name ∉ fields) :
    c.setField name value = .ok c := by
  simp only [fields, List.mem_cons, List.not_mem_nil, or_false, not_or] at h
  simp only [setField, h, if_false]
  rfl

end ChannelConfig

namespace LoggingConfig

/-- What an entry can make of the part about printing events. -/
inductive Set (c : LoggingConfig) (value : Toml) : String → LoggingConfig → Prop where
  | level {x : String} (h : value.toText = .ok x) : Set c value "level" { c with level := x }
  | format {x : LogFormat} (h : value.toNamed LogFormat = .ok x) : Set c value "format" { c with format := x }
  | unknown {name : String} (h : name ∉ fields) : Set c value name c

/-- A field about printing events that is set has the value that was read for it. -/
theorem set_of_setField {c c' : LoggingConfig} {name : String} {value : Toml}
    (h : c.setField name value = .ok c') : c.Set value name c' := by
  unfold setField at h
  rcases ok_of_ite h with ⟨rfl, x, hx, rfl⟩ | ⟨hlevel, h⟩
  · exact .level hx
  rcases ok_of_ite h with ⟨rfl, x, hx, rfl⟩ | ⟨hformat, h⟩
  · exact .format hx
  cases h
  exact .unknown (by simp [fields, *])

/-- What the members of the part about printing events make of it. -/
structure Reads (entries : List (String × Toml)) (c : LoggingConfig) : Prop where
  level : Toml.Field entries "level" Toml.toText "info" c.level
  format : Toml.Field entries "format" (Toml.toNamed LogFormat) .pretty c.format

/-- What is about printing events reads what the entries say, one after the other. -/
theorem reads_of_foldlM {entries : List (String × Toml)} {c : LoggingConfig}
    (h : entries.foldlM (fun c (entry : String × Toml) => setField c entry.1 entry.2) default = .ok c) :
    c.Reads entries := by
  constructor
  all_goals
    refine Toml.field_of_foldlM (fun _ name _ _ hset => ?_) h
    cases set_of_setField hset with
    | unknown hname => rw [if_neg fun hkey => hname (by rw [hkey]; decide)]
    | _ hx => simp [hx]

/-- A key that is no field about printing events is passed over. -/
theorem setField_of_notMem {c : LoggingConfig} {name : String} {value : Toml} (h : name ∉ fields) :
    c.setField name value = .ok c := by
  simp only [fields, List.mem_cons, List.not_mem_nil, or_false, not_or] at h
  simp only [setField, h, if_false]
  rfl

end LoggingConfig

namespace Config

/-- The names of the parts of a configuration. -/
def parts : List String := ["channel", "logging"]

/-- The channel's part as it is read from a value. -/
def readChannel (value : Toml) : Except Misfit ChannelConfig :=
  value.toRecord "struct ChannelConfig" ChannelConfig.fields .default ChannelConfig.setField

/-- The part about printing events as it is read from a value. -/
def readLogging (value : Toml) : Except Misfit LoggingConfig :=
  value.toRecord "struct LoggingConfig" LoggingConfig.fields .default LoggingConfig.setField

/-- What an entry can make of a configuration. -/
inductive Set (c : Config) (value : Toml) : String → Config → Prop where
  | channel {x : ChannelConfig} (h : readChannel value = .ok x) : Set c value "channel" { c with channel := x }
  | logging {x : LoggingConfig} (h : readLogging value = .ok x) : Set c value "logging" { c with logging := x }
  | unknown {name : String} (h : name ∉ parts) : Set c value name c

/-- A part that is set has the value that was read for it. -/
theorem set_of_setPart {c c' : Config} {name : String} {value : Toml} (h : c.setPart name value = .ok c') :
    c.Set value name c' := by
  unfold setPart at h
  rcases ok_of_ite h with ⟨rfl, x, hx, rfl⟩ | ⟨hchannel, h⟩
  · exact .channel hx
  rcases ok_of_ite h with ⟨rfl, x, hx, rfl⟩ | ⟨hlogging, h⟩
  · exact .logging hx
  cases h
  exact .unknown (by simp [parts, *])

/-- What a document says of a configuration: each field is what the entry under its key is read as, or its
default where there is none. -/
structure Reads (entries : List (String × Toml)) (c : Config) : Prop where
  channel : c.channel.Reads (Toml.membersOf entries "channel" ChannelConfig.fields)
  logging : c.logging.Reads (Toml.membersOf entries "logging" LoggingConfig.fields)

/-- The entries of a document under keys that are known, in the document itself and in its parts. -/
def known (entries : List (String × Toml)) : List (String × Toml) :=
  (Toml.under parts entries).map fun (name, value) =>
    (name, value.onlyUnder (if name = "channel" then ChannelConfig.fields else LoggingConfig.fields))

/-- The part of the channel is set from the table of that name. -/
theorem sets_channel : Toml.Sets setPart "channel" readChannel Config.channel := by
  intro c name value c' h
  cases set_of_setPart h with
  | unknown hname => rw [if_neg fun hkey => hname (by rw [hkey]; decide)]
  | _ hx => simp [hx]

/-- The part about printing events is set from the table of that name. -/
theorem sets_logging : Toml.Sets setPart "logging" readLogging Config.logging := by
  intro c name value c' h
  cases set_of_setPart h with
  | unknown hname => rw [if_neg fun hkey => hname (by rw [hkey]; decide)]
  | _ hx => simp [hx]

/-- What a document says of a configuration that it decodes to. -/
theorem reads_of_ofEntries {entries : List (String × Toml)} {c : Config} (h : ofEntries entries = .ok c) :
    c.Reads entries := by
  constructor
  · exact ChannelConfig.reads_of_foldlM (Toml.foldlM_membersOf (Toml.field_of_foldlM sets_channel h))
  · exact LoggingConfig.reads_of_foldlM (Toml.foldlM_membersOf (Toml.field_of_foldlM sets_logging h))

/-- A part is read the same without the entries under keys that are not known. -/
theorem setPart_onlyUnder (c : Config) (name : String) (value : Toml) :
    c.setPart name (value.onlyUnder (if name = "channel" then ChannelConfig.fields else LoggingConfig.fields)) =
      c.setPart name value := by
  unfold setPart
  by_cases hchannel : name = "channel"
  · simp only [if_pos hchannel]
    rw [Toml.toRecord_onlyUnder _ fun _ _ _ => ChannelConfig.setField_of_notMem]
  · simp only [if_neg hchannel]
    rw [Toml.toRecord_onlyUnder _ fun _ _ _ => LoggingConfig.setField_of_notMem]

/-- A document decodes to the same without the entries under keys that are not known. -/
theorem ofEntries_known (entries : List (String × Toml)) : ofEntries (known entries) = ofEntries entries := by
  have hunknown : ∀ (c : Config) name value, name ∉ parts → c.setPart name value = .ok c := by
    intro c name value hname
    simp only [parts, List.mem_cons, List.not_mem_nil, or_false, not_or] at hname
    simp only [setPart, hname, if_false]
    rfl
  rw [ofEntries, known, List.foldlM_map]
  simp only [setPart_onlyUnder]
  exact Toml.foldlM_under hunknown

end Config

end Loopback
