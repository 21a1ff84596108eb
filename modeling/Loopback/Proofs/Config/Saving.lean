import Loopback.Proofs.Config.Resolution
import Loopback.Proofs.Host.Written
import Loopback.Proofs.Toml.Document

/-!
# Loading what was saved

A configuration whose numbers can be written is written as a document of two tables, which is read back as the
same configuration: what is left out is what is absent by default. So a configuration that passes its check, once
saved to a path that can be written, is loaded from there unchanged where the environment says nothing.
-/

namespace Loopback

open Toml

/-- The member that a number makes, if there is one. -/
def numberMember? (key : String) : Option UInt64 → List (String × Toml)
  | some value => [(key, .integer value.toNat)]
  | none => []

/-- The entries of the channel's part. -/
def ChannelConfig.entries (c : ChannelConfig) : List (String × Toml) :=
  [("port", .string c.address)] ++
    [("capacity", .integer c.capacity.toNat)] ++
    [("baud_rate", .integer c.baudRate.toNat)] ++
    numberMember? "read_timeout_ms" c.readTimeoutMillis ++
    numberMember? "write_timeout_ms" c.writeTimeoutMillis ++
    [("close_settle_ms", .integer c.closeSettleMillis.toNat)] ++
    [("data_bits", .string (Named.name c.dataBits))] ++
    [("parity", .string (Named.name c.parity))] ++
    [("stop_bits", .string (Named.name c.stopBits))] ++
    [("flow_control", .string (Named.name c.flowControl))]

/-- The entries of the part about printing events. -/
def LoggingConfig.entries (c : LoggingConfig) : List (String × Toml) :=
  [("level", .string c.level)] ++ [("format", .string (Named.name c.format))]

section writing

/-- The names of the parts and of what stands in them. -/
def documentWords : List String :=
  ["channel", "logging", "port", "capacity", "baud_rate", "read_timeout_ms", "write_timeout_ms", "close_settle_ms",
    "data_bits", "parity", "stop_bits", "flow_control", "level", "format"]

variable {key : String}

/-- The words of a document are bare words. -/
theorem isWord_of_mem (h : key ∈ documentWords) : IsWord key := by
  have hwords : ∀ word ∈ documentWords, IsWord word := by decide +kernel
  exact hwords key h

/-- A line with a text adds its key with that text. -/
theorem adds_textLine (hkey : IsWord key) (value : String) : Adds (textLine key value) [(key, .string value)] := by
  have hwritten := writes_string value.toList
  rw [String.ofList_toList] at hwritten
  exact adds_configLine hkey hwritten

/-- A line with a number adds its key with that number, if it has up to 63 bits. -/
theorem adds_numberLine (hkey : IsWord key) {value : Nat} (hvalue : value ≤ Text.maxSigned64) :
    Adds (numberLine key value) [(key, .integer value)] :=
  adds_configLine hkey (writes_number hvalue)

/-- A line with a number adds its key only if there is a number. -/
theorem adds_numberLine? (hkey : IsWord key) {value : Option UInt64} (hvalue : value.all isWritable = true) :
    Adds (numberLine? key value) (numberMember? key value) := by
  cases value with
  | none => exact adds_nil
  | some value => exact adds_numberLine hkey (of_decide_eq_true hvalue)

/-- A line with a named value adds its key with that name. -/
theorem adds_namedLine {α : Type} [Named α] (hkey : IsWord key) (value : α) :
    Adds (namedLine key value) [(key, .string (Named.name value))] :=
  adds_textLine hkey _

/-- The lines of the channel's part add its entries, where all numbers can be written. -/
theorem ChannelConfig.adds_lines {c : ChannelConfig} (h : c.isWritable = true) : Adds c.lines c.entries := by
  simp only [ChannelConfig.isWritable, Bool.and_eq_true] at h
  obtain ⟨⟨⟨hcapacity, hread⟩, hwrite⟩, hsettle⟩ := h
  have hbaud : c.baudRate.toNat ≤ Text.maxSigned64 :=
    Nat.le_trans (Nat.le_of_lt c.baudRate.toNat_lt) (by decide)
  unfold lines entries
  apply adds_append _ (adds_namedLine (isWord_of_mem (by simp [documentWords])) c.flowControl)
  apply adds_append _ (adds_namedLine (isWord_of_mem (by simp [documentWords])) c.stopBits)
  apply adds_append _ (adds_namedLine (isWord_of_mem (by simp [documentWords])) c.parity)
  apply adds_append _ (adds_namedLine (isWord_of_mem (by simp [documentWords])) c.dataBits)
  apply adds_append _ (adds_numberLine (isWord_of_mem (by simp [documentWords])) (of_decide_eq_true hsettle))
  apply adds_append _ (adds_numberLine? (isWord_of_mem (by simp [documentWords])) hwrite)
  apply adds_append _ (adds_numberLine? (isWord_of_mem (by simp [documentWords])) hread)
  apply adds_append _ (adds_numberLine (isWord_of_mem (by simp [documentWords])) hbaud)
  apply adds_append _ (adds_numberLine (isWord_of_mem (by simp [documentWords])) (of_decide_eq_true hcapacity))
  exact adds_textLine (isWord_of_mem (by simp [documentWords])) c.address

/-- The lines about printing events add their entries. -/
theorem LoggingConfig.adds_lines (c : LoggingConfig) : Adds c.lines c.entries :=
  adds_append (adds_textLine (isWord_of_mem (by simp [documentWords])) _)
    (adds_namedLine (isWord_of_mem (by simp [documentWords])) _)

/-- No field of the channel is written twice. -/
theorem ChannelConfig.nodup_entries (c : ChannelConfig) : (c.entries.map Prod.fst).Nodup := by
  obtain ⟨_, _, _, read, write, _, _, _, _, _⟩ := c
  cases read <;> cases write <;> simp [entries, numberMember?]

/-- No field about printing events is written twice. -/
theorem LoggingConfig.nodup_entries (c : LoggingConfig) : (c.entries.map Prod.fst).Nodup := by
  simp [entries]

/-- A document is two headers with the lines of their parts. -/
theorem Config.document_eq (c : Config) :
    c.document = tableLines "channel" (c.channel.lines ++ '\n' :: tableLines "logging" c.logging.lines) := by
  have hchannel : "[channel]\n".toList = '[' :: ("channel".toList ++ [']', '\n']) := by decide +kernel
  have hlogging : "\n[logging]\n".toList = '\n' :: '[' :: ("logging".toList ++ [']', '\n']) := by decide +kernel
  unfold document tableLines
  rw [hchannel, hlogging]
  simp only [List.cons_append, List.append_assoc, List.nil_append]

/-- A configuration whose numbers can be written is read back as the entries of its parts. -/
theorem Config.parse?_document {c : Config} (h : c.channel.isWritable = true) :
    Toml.parse? (String.ofList c.document) =
      some [("channel", .table c.channel.entries), ("logging", .table c.logging.entries)] := by
  have hchannel : IsWord "channel" := isWord_of_mem (by simp [documentWords])
  have hlogging : IsWord "logging" := isWord_of_mem (by simp [documentWords])
  rw [document_eq]
  exact parse?_tables hchannel hlogging (by decide) (ChannelConfig.adds_lines h) c.channel.nodup_entries
    c.logging.adds_lines c.logging.nodup_entries

end writing

section reading

/-- A number of 64 bits is read back as it was written. -/
theorem toUInt64_integer (value : UInt64) (width : String) :
    Toml.toUInt64 width (.integer value.toNat) = .ok value := by
  have hbound : value.toNat ≤ Text.max64 := Nat.le_of_lt_succ value.toNat_lt
  simp [toUInt64, toNatural, hbound, Except.map]

/-- A number of 32 bits is read back as it was written. -/
theorem toUInt32_integer (value : UInt32) : Toml.toUInt32 (.integer value.toNat) = .ok value := by
  have hbound : value.toNat ≤ Text.max32 := Nat.le_of_lt_succ value.toNat_lt
  simp [toUInt32, toNatural, hbound, Except.map]

/-- A value is found under its own name, where no other has it. -/
theorem toNamed_name {α : Type} [Named α] {value : α} (h : Named.find? (Named.name value) = some value) :
    Toml.toNamed α (.string (Named.name value)) = .ok value := by
  simp [toNamed, named, h]

/-- The fields of the channel are set from its entries to what they were. -/
theorem ChannelConfig.foldlM_entries (c : ChannelConfig) :
    c.entries.foldlM (fun c (entry : String × Toml) => setField c entry.1 entry.2) default = .ok c := by
  have hdata := toNamed_name (by cases c.dataBits <;> decide : Named.find? _ = some c.dataBits)
  have hparity := toNamed_name (by cases c.parity <;> decide : Named.find? _ = some c.parity)
  have hstop := toNamed_name (by cases c.stopBits <;> decide : Named.find? _ = some c.stopBits)
  have hflow := toNamed_name (by cases c.flowControl <;> decide : Named.find? _ = some c.flowControl)
  obtain ⟨_, _, _, read, write, _, _, _, _, _⟩ := c
  cases read <;> cases write <;>
    simp [entries, numberMember?, default, setField, toText, toUInt64_integer, toUInt32_integer, hdata, hparity, hstop,
      hflow, bind, Except.bind, pure, Except.pure]

/-- The fields about printing events are set from their entries to what they were. -/
theorem LoggingConfig.foldlM_entries (c : LoggingConfig) :
    c.entries.foldlM (fun c (entry : String × Toml) => setField c entry.1 entry.2) default = .ok c := by
  have hformat := toNamed_name (by cases c.format <;> decide : Named.find? _ = some c.format)
  simp [entries, setField, toText, hformat, bind, Except.bind, pure, Except.pure]

/-- The entries of a configuration make up that configuration. -/
theorem Config.ofEntries_entries (c : Config) :
    ofEntries [("channel", .table c.channel.entries), ("logging", .table c.logging.entries)] = .ok c := by
  simp [ofEntries, setPart, toRecord, ChannelConfig.foldlM_entries, LoggingConfig.foldlM_entries, bind, Except.bind,
    pure, Except.pure]

end reading

namespace Loader

open Override

variable {h : Host} {path : Path} {c : Config}

/-- What is read from a file with the document of a configuration is that configuration. -/
theorem readConfig_document (hc : c.channel.isWritable = true)
    (hread : h.files.read h.workingDirectory path = .ok (Text.Utf8.encode c.document)) :
    readConfig h path = .ok c := by
  have htext : h.readText path = .ok (String.ofList c.document) := FileTree.readText_of_read hread
  simp [readConfig, htext, Config.parse?_document hc, Config.ofEntries_entries]

/-- An environment that sets none of the variables leaves every configuration as it is. -/
theorem resolved_self {env : Environment} (henv : ∀ v ∈ Variable.all, env.octets? v.name = none) (c : Config) :
    Resolved env c c := by
  have hunset {name : String} (hname : env.octets? name = none) (text : String) : ¬ env.Sets name text := by
    simp [Environment.Sets, hname]
  simp only [Variable.all, List.forall_mem_cons, List.not_mem_nil, false_implies, implies_true, and_true] at henv
  obtain ⟨haddress, hcapacity, hbaud, hread, hwrite, hsettle, hlevel, hformat⟩ := henv
  exact ⟨.unset (hunset haddress), .unset (hunset hcapacity), .unset (hunset hbaud), .unset (hunset hread),
    .unset (hunset hwrite), .unset (hunset hsettle), .unset (hunset hlevel), .unset (hunset hformat), rfl, rfl, rfl,
    rfl⟩

/-- A configuration that passes its check is loaded as it is, where the environment says nothing. -/
theorem loadFrom_of_unset (hc : readConfig h path = .ok c) (hvalid : c.validate = .ok ())
    (henv : ∀ v ∈ Variable.all, h.environment.octets? v.name = none) : loadFrom h path = .ok ⟨some path, c⟩ := by
  obtain ⟨hcapacity, hbaud⟩ := Config.validate_eq_ok.1 hvalid
  rw [loadFrom_of_resolved hc (resolved_self henv c), if_neg hcapacity, if_neg hbaud]

/-- A configuration that passes its check and whose numbers can be written is saved to every path that can be
written, and loaded from there unchanged where the environment says nothing. -/
theorem saveTo_loadFrom {l : Loader} (hvalid : l.config.validate = .ok ())
    (hcapacity : l.config.channel.capacity.toNat ≤ 2 ^ 63 - 1)
    (hread : ∀ millis ∈ l.config.channel.readTimeoutMillis, millis.toNat ≤ 2 ^ 63 - 1)
    (hwrite : ∀ millis ∈ l.config.channel.writeTimeoutMillis, millis.toNat ≤ 2 ^ 63 - 1)
    (hsettle : l.config.channel.closeSettleMillis.toNat ≤ 2 ^ 63 - 1)
    (hpath : h.Writable path (Text.Utf8.encode l.config.document).length) :
    ∃ files : FileTree, l.saveTo h path = (.ok (), { h with files }) ∧
      ∀ environment : Environment,
        (∀ name, "LOOP_SERIAL_".toList <+: name.toList → environment.octets? name = none) →
        loadFrom { h with files, environment } path = .ok ⟨some path, l.config⟩ := by
  have hnumbers : l.config.channel.isWritable = true := by
    simp only [ChannelConfig.isWritable, Bool.and_eq_true, Option.all_eq_true, Loopback.isWritable,
      decide_eq_true_eq]
    exact ⟨⟨⟨hcapacity, hread⟩, hwrite⟩, hsettle⟩
  obtain ⟨files, hwritten, hfile⟩ := hpath.written
  refine ⟨files, ?_, fun environment henv => ?_⟩
  · simp [saveTo, Config.write?, hnumbers, hwritten]
  · have hnamed : ∀ v ∈ Variable.all, "LOOP_SERIAL_".toList <+: v.name.toList := by decide +kernel
    exact loadFrom_of_unset (readConfig_document hnumbers hfile) hvalid fun v hv => henv v.name (hnamed v hv)

/-- A configuration with texts that no plain style can write, the greatest number that can be written, and one
timeout of two. -/
def scribbled : Config where
  channel := { ChannelConfig.default with
    address := "\"\"\"\\\n\t\x07\r'''\u2028"
    capacity := 9223372036854775807
    writeTimeoutMillis := some 7
    parity := .even }
  logging := ⟨"", .compact⟩

/-- A configuration with quotes, line ends and a limit of its own is saved in a directory that was not there, and
loaded from it. -/
theorem saveTo_loadFrom_scribbled :
    ∃ files : FileTree,
      saveTo ⟨none, scribbled⟩ ⟨[], .empty, [], .ample⟩ (.ofText "conf/loop.toml") =
        (.ok (), ⟨[], files, [], .ample⟩) ∧
      loadFrom ⟨[], files, [], .ample⟩ (.ofText "conf/loop.toml") =
        .ok ⟨some (.ofText "conf/loop.toml"), scribbled⟩ := by
  have hpath : Host.Writable ⟨[], .empty, [], .ample⟩ (.ofText "conf/loop.toml")
      (Text.Utf8.encode scribbled.document).length := ⟨Text.Utf8.encode scribbled.document, rfl, by decide +kernel⟩
  obtain ⟨files, hsaved, hloaded⟩ := saveTo_loadFrom (l := ⟨none, scribbled⟩) (by decide) (by decide)
    (by simp [scribbled, ChannelConfig.default]) (by simp [scribbled]) (by decide) hpath
  exact ⟨files, hsaved, hloaded [] fun _ _ => rfl⟩

end Loader

end Loopback
