import Loopback.CommandLine.Run
import Loopback.Proofs.CommandLine.Words
import Loopback.Proofs.Config.Resolution

/-!
# Flags over variables over a file

The configuration of a call is made in layers: a field is what a flag says of it, or else what its variable
says, or else what the file says, or else its default. A call does what its configuration as a whole makes it
do, with one exception: the two lower layers are checked by themselves before the flags count, so a baud rate
of zero there ends the call even if a flag gives another one. Of what is checked, no other field has a flag.
-/

namespace Loopback.CommandLine

open Override

/-- What a flag makes of a field: it sets it where it is given, and otherwise the layers below do. -/
inductive Flagged {α : Type} (flag : Option α) (below : α → Prop) : α → Prop where
  | given {value : α} (h : flag = some value) : Flagged flag below value
  | absent {value : α} (h : flag = none) (hbelow : below value) : Flagged flag below value

/-- A flag that is given sets a field, and one that is not leaves it to the layers below. -/
theorem flagged_of_eq {α : Type} {flag : Option α} {below : α → Prop} {lower value : α} (h : below lower)
    (hvalue : value = flag.getD lower) : Flagged flag below value := by
  cases flag with
  | none => exact .absent rfl (hvalue ▸ h)
  | some given => exact .given (congrArg some hvalue.symm)

/-- Behind what a flag makes of a field there is something below, if there can be. -/
theorem Flagged.exists_below {α : Type} {flag : Option α} {below : α → Prop} {old value : α}
    (h : Flagged flag below value) (hold : below old) : ∃ lower, below lower ∧ value = flag.getD lower := by
  cases h with
  | given h => exact ⟨old, hold, by rw [h, Option.getD_some]⟩
  | absent h hbelow => exact ⟨value, hbelow, by rw [h, Option.getD_none]⟩

namespace Arguments

/-- What the flags and the environment of a call make of a configuration, field by field. -/
structure Layered (a : Arguments) (env : Environment) (f r : Config) : Prop where
  address : Flagged a.url (Overrides env "LOOP_SERIAL_CHANNEL_PORT" Verbatim f.channel.address) r.channel.address
  capacity : Overrides env "LOOP_SERIAL_CHANNEL_CAPACITY" Number64 f.channel.capacity r.channel.capacity
  baudRate : Flagged a.baud (Overrides env "LOOP_SERIAL_CHANNEL_BAUD_RATE" Number32 f.channel.baudRate)
    r.channel.baudRate
  readTimeout : Flagged (a.readTimeoutMillis.map some)
    (Overrides env "LOOP_SERIAL_CHANNEL_READ_TIMEOUT_MS" Timeout f.channel.readTimeoutMillis)
    r.channel.readTimeoutMillis
  writeTimeout : Flagged (a.writeTimeoutMillis.map some)
    (Overrides env "LOOP_SERIAL_CHANNEL_WRITE_TIMEOUT_MS" Timeout f.channel.writeTimeoutMillis)
    r.channel.writeTimeoutMillis
  closeSettle : Overrides env "LOOP_SERIAL_CHANNEL_CLOSE_SETTLE_MS" Number64 f.channel.closeSettleMillis
    r.channel.closeSettleMillis
  level : Flagged a.logLevel (Overrides env "LOOP_SERIAL_LOGGING_LEVEL" Verbatim f.logging.level) r.logging.level
  format : Flagged (if a.json then some .json else .none)
    (Overrides env "LOOP_SERIAL_LOGGING_FORMAT" FormatName f.logging.format) r.logging.format
  dataBits : r.channel.dataBits = f.channel.dataBits
  parity : r.channel.parity = f.channel.parity
  stopBits : r.channel.stopBits = f.channel.stopBits
  flowControl : r.channel.flowControl = f.channel.flowControl

variable {a : Arguments} {env : Environment} {h : Host} {f m r : Config}

/-- A flag over a field that may be missing sets it where the flag is given. -/
theorem orElse_eq_getD {α : Type} (flag old : Option α) :
    (flag.orElse fun _ => old) = (flag.map some).getD old := by
  cases flag <;> rfl

/-- The flag for JSON sets the format, and without it the format is left. -/
theorem ite_eq_getD (json : Bool) (format : LogFormat) :
    (if json then .json else format) = (if json then some .json else Option.none).getD format := by
  cases json <;> rfl

/-- The flags go on top of what the environment made. -/
theorem layered_override (hm : Resolved env f m) : a.Layered env f (a.override m) where
  address := flagged_of_eq hm.address rfl
  capacity := hm.capacity
  baudRate := flagged_of_eq hm.baudRate rfl
  readTimeout := flagged_of_eq hm.readTimeout (orElse_eq_getD ..)
  writeTimeout := flagged_of_eq hm.writeTimeout (orElse_eq_getD ..)
  closeSettle := hm.closeSettle
  level := flagged_of_eq hm.level rfl
  format := flagged_of_eq hm.format (ite_eq_getD ..)
  dataBits := hm.dataBits
  parity := hm.parity
  stopBits := hm.stopBits
  flowControl := hm.flowControl

/-- The layers resolve to one configuration only. -/
theorem resolved_unique {r' : Config} (hr : Resolved env f r) (hr' : Resolved env f r') : r' = r :=
  congrArg Overridden.config ((overridden_of_resolved hr').symm.trans (overridden_of_resolved hr))

/-- Nothing else has the flags on top of what the environment made. -/
theorem eq_override_of_layered (hm : Resolved env f m) (hr : a.Layered env f r) : r = a.override m := by
  obtain ⟨address, haddress, haddress'⟩ := hr.address.exists_below hm.address
  obtain ⟨baudRate, hbaud, hbaud'⟩ := hr.baudRate.exists_below hm.baudRate
  obtain ⟨readTimeoutMillis, hread, hread'⟩ := hr.readTimeout.exists_below hm.readTimeout
  obtain ⟨writeTimeoutMillis, hwrite, hwrite'⟩ := hr.writeTimeout.exists_below hm.writeTimeout
  obtain ⟨level, hlevel, hlevel'⟩ := hr.level.exists_below hm.level
  obtain ⟨format, hformat, hformat'⟩ := hr.format.exists_below hm.format
  let channel := { r.channel with address, baudRate, readTimeoutMillis, writeTimeoutMillis }
  let below : Config := ⟨channel, ⟨level, format⟩⟩
  have hbelow : Resolved env f below := ⟨haddress, hr.capacity, hbaud, hread, hwrite, hr.closeSettle, hlevel,
    hformat, hr.dataBits, hr.parity, hr.stopBits, hr.flowControl⟩
  rw [← resolved_unique hm hbelow]
  obtain ⟨⟨_, _, _, _, _, _, _, _, _, _⟩, _, _⟩ := r
  dsimp only at haddress' hbaud' hread' hwrite' hlevel' hformat'
  simp only [override, below, channel, haddress', hbaud', hread', hwrite', hlevel', hformat', orElse_eq_getD,
    ite_eq_getD]

/-- The file that a call takes its configuration from, if there is one. -/
def source? (a : Arguments) (h : Host) : Option Path := a.config.orElse fun _ => Loader.find? h

/-- What a call finds before its variables and its flags count: what its file says, or else the defaults. -/
inductive Finds (a : Arguments) (h : Host) : Config → Prop where
  | file {path : Path} {f : Config} (hpath : a.source? h = some path) (hf : Loader.readConfig h path = .ok f) :
      Finds a h f
  | default (hpath : a.source? h = .none) : Finds a h .default

/-- Each field of what a file says is what its entry says, or its default. -/
theorem Finds.exists_reads {path : Path} (hf : a.Finds h f) (hpath : a.source? h = some path) :
    ∃ text entries, h.readText path = .ok text ∧ Toml.parse? text = some entries ∧ f.Reads entries := by
  cases hf with
  | file hsource hread =>
    obtain rfl := Option.some.inj (hsource.symm.trans hpath)
    obtain ⟨text, entries, htext, hentries, hdecoded⟩ := Loader.exists_entries_of_readConfig hread
    exact ⟨text, entries, htext, hentries, Config.reads_of_ofEntries hdecoded⟩
  | default hnone =>
    rw [hnone] at hpath
    cases hpath

/-- What the environment made is checked before the flags count. -/
theorem complete_of_resolved {path? : Option Path} (hm : Resolved env f m) :
    Loader.complete env path? f = m.validate.map fun _ => ⟨path?, m⟩ := by
  rw [Loader.complete, overridden_of_resolved hm]
  dsimp only
  cases m.validate <;> rfl

/-- The configuration of a call is loaded from where the call has it, and checked once more with its flags. -/
theorem resolve_eq_source (a : Arguments) (h : Host) :
    a.resolve h = (match a.source? h with
      | some path => Loader.loadFrom h path
      | Option.none => Loader.complete h.environment .none .default).bind
        fun loader => (a.override loader.config).validate.map fun _ => a.override loader.config := by
  have hchecked (config : Config) :
      (do config.validate; pure config : Except ConfigFailure Config) = config.validate.map fun _ => config := by
    cases config.validate <;> rfl
  cases hconfig : a.config with
  | some path =>
    simp only [resolve, hconfig, hchecked, source?, Option.orElse_some]
    rfl
  | none =>
    simp only [resolve, hconfig, hchecked, source?, Option.orElse_none, Loader.load]
    rfl

/-- The configuration of a call is checked without its flags, and then again with them. -/
theorem resolve_of_finds (hf : a.Finds h f) (hm : Resolved h.environment f m) :
    a.resolve h = m.validate.bind fun _ => (a.override m).validate.map fun _ => a.override m := by
  have hloaded : (match a.source? h with
      | some path => Loader.loadFrom h path
      | Option.none => Loader.complete h.environment .none .default) = m.validate.map fun _ => ⟨a.source? h, m⟩ := by
    cases hf with
    | file hpath hread =>
      rw [hpath]
      dsimp only
      rw [Loader.loadFrom, hread]
      exact complete_of_resolved hm
    | default hpath =>
      rw [hpath]
      exact complete_of_resolved hm
  rw [resolve_eq_source, hloaded]
  cases m.validate <;> rfl

/-- A call is told nothing of its configuration but by its file: it says only what is sent and how that is
reported, and no variable is set. -/
structure Plain (a : Arguments) (h : Host) (r : Config) : Prop where
  url : a.url = .none
  baud : a.baud = .none
  readTimeout : a.readTimeoutMillis = .none
  writeTimeout : a.writeTimeoutMillis = .none
  logLevel : a.logLevel = .none
  unset : ∀ v ∈ Variable.all, ∀ text, ¬ h.environment.Sets v.name text
  finds : a.Finds h r

/-- Where only the file speaks, the environment resolves to what it says. -/
theorem Plain.resolved (hplain : a.Plain h r) : Resolved h.environment r r := by
  have hunset := hplain.unset
  simp only [Variable.all, List.forall_mem_cons, List.not_mem_nil, false_implies, implies_true, and_true] at hunset
  obtain ⟨haddress, hcapacity, hbaud, hread, hwrite, hsettle, hlevel, hformat⟩ := hunset
  exact ⟨.unset haddress, .unset hcapacity, .unset hbaud, .unset hread, .unset hwrite, .unset hsettle,
    .unset hlevel, .unset hformat, rfl, rfl, rfl, rfl⟩

/-- Where only the file speaks, the flags leave what it says. -/
theorem Plain.override_eq (hplain : a.Plain h r) (hformat : a.json = true → r.logging.format = .json) :
    a.override r = r := by
  have hjson : (if a.json then .json else r.logging.format) = r.logging.format := by
    split
    next hjson => exact (hformat hjson).symm
    next => rfl
  simp only [override, hplain.url, hplain.baud, hplain.readTimeout, hplain.writeTimeout, hplain.logLevel, hjson,
    Option.getD_none, Option.orElse_none]

end Arguments

section calls

variable {h : Host} {words : List String} {a : Arguments} {f m : Config}

/-- A call that is refused for its configuration. -/
def refused (failure : ConfigFailure) : Option Conclusion :=
  some (.silent .nothing (.failure (.config failure)))

/-- What a call comes to whose variables, but not yet its flags, make `m` of what it finds. -/
theorem run?_of_finds (hread : Arguments.read words = .ok a) (hf : a.Finds h f)
    (hm : Resolved h.environment f m) :
    run? h words =
      if m.channel.capacity = 0 then refused (.outOfRange "channel.capacity" "must be at least 1")
      else if m.channel.baudRate = 0 ∨ (a.override m).channel.baudRate = 0 then
        refused (.channel (.invalidBaudRate 0))
      else send? h.environment (a.override m) a.json (Text.Utf8.encode (a.message.getD defaultMessage).toList) := by
  have hcapacity : (a.override m).channel.capacity = m.channel.capacity := rfl
  rw [run?, hread]
  dsimp only
  rw [Arguments.resolve_of_finds hf hm, Config.validate_eq, Config.validate_eq, hcapacity]
  by_cases hroom : m.channel.capacity = 0
  · simp [hroom, Except.bind, refused]
  · by_cases hlower : m.channel.baudRate = 0
    · simp [hroom, hlower, Except.bind, refused]
    · by_cases hupper : (a.override m).channel.baudRate = 0
      · simp [hroom, hlower, hupper, Except.bind, Except.map, refused]
      · simp [hroom, hlower, hupper, Except.bind, Except.map]

/-- Of the environment, sending looks only at the variable for the filter. -/
theorem send?_congr {env env' : Environment} (henv : env.text? filterVariable = env'.text? filterVariable)
    (c : Config) (json : Bool) (message : List UInt8) : send? env c json message = send? env' c json message := by
  have hfilter : filterOf env c.logging = filterOf env' c.logging := by rw [filterOf, filterOf, henv]
  rw [send?, send?, hfilter]

/-- A call has one configuration: that of its flags over its variables over its file over the defaults. It is
refused or goes on by that configuration alone, as any other call does that is told all of it by its file, but
for one thing: a baud rate of zero below the flags is refused even where a flag gives another. And any choice of
flags can be made in words. -/
theorem flags_over_layers (hread : Arguments.read words = .ok a) (hf : a.Finds h f)
    (hfits : ∀ v ∈ Variable.all, v.Fits h.environment) :
    (∀ path, a.source? h = some path →
      ∃ text entries, h.readText path = .ok text ∧ Toml.parse? text = some entries ∧ f.Reads entries) ∧
    (a.Sayable → Arguments.read a.words = .ok a) ∧
    ∃ r lower, (∀ r', a.Layered h.environment f r' ↔ r' = r) ∧
      (∀ rate, Overrides h.environment "LOOP_SERIAL_CHANNEL_BAUD_RATE" Number32 f.channel.baudRate rate ↔
        rate = lower) ∧
      (run? h words =
        if r.channel.capacity = 0 then refused (.outOfRange "channel.capacity" "must be at least 1")
        else if lower = 0 ∨ r.channel.baudRate = 0 then refused (.channel (.invalidBaudRate 0))
        else send? h.environment r a.json (Text.Utf8.encode (a.message.getD defaultMessage).toList)) ∧
      (lower ≠ 0 → ∀ h₀ words₀ a₀, Arguments.read words₀ = .ok a₀ → a₀.message = a.message → a₀.json = a.json →
        a₀.Plain h₀ r → h₀.environment.text? filterVariable = h.environment.text? filterVariable →
        run? h words = run? h₀ words₀) := by
  obtain ⟨m, hm⟩ := exists_resolved hfits f
  have hrun := run?_of_finds hread hf hm
  refine ⟨fun path => hf.exists_reads, a.read_words, a.override m, m.channel.baudRate, fun r => ?_, fun rate => ?_,
    hrun, ?_⟩
  · exact ⟨Arguments.eq_override_of_layered hm, fun heq => heq ▸ Arguments.layered_override hm⟩
  · constructor
    · intro hrate
      let other : Config := { m with channel := { m.channel with baudRate := rate } }
      have hother : Resolved h.environment f other := { hm with baudRate := hrate }
      exact congrArg (·.channel.baudRate) (Arguments.resolved_unique hm hother)
    · rintro rfl
      exact hm.baudRate
  · intro hlower h₀ words₀ a₀ hread₀ hmessage hjson hplain hfilter
    have hformat : a₀.json = true → (a.override m).logging.format = .json := by
      intro htrue
      rw [Arguments.override, ← hjson, htrue, if_pos rfl]
    have hrun₀ := run?_of_finds hread₀ hplain.finds hplain.resolved
    rw [hplain.override_eq hformat, hmessage, hjson, send?_congr hfilter] at hrun₀
    have hcapacity : (a.override m).channel.capacity = m.channel.capacity := rfl
    simp only [hrun, hrun₀, hcapacity, hlower, or_self, false_or]

end calls

/-- A host with a configuration file in the customary place. -/
def hostWith (environment : Environment) (text : String) : Host where
  environment
  files := ⟨[([Path.ofText "loop-serial.toml"], .file 0)], [(0, Text.Utf8.encode text.toList)]⟩
  workingDirectory := []

/-- A file whose baud rate is none. -/
def ratelessFile : String := "[channel]\ncapacity = 8\nbaud_rate = 0\n"

/-- What that file says. -/
def rateless : Config := ⟨{ ChannelConfig.default with capacity := 8, baudRate := 0 }, .default⟩

/-- An environment that gives a baud rate, and an address. -/
def rated : Environment := [
  Loader.worded "LOOP_SERIAL_CHANNEL_BAUD_RATE" " 19200 ",
  Loader.worded "LOOP_SERIAL_CHANNEL_PORT" "loop://?logging=info"]

/-- The variables of that environment all fit. -/
theorem fits_rated : ∀ v ∈ Variable.all, v.Fits rated :=
  fits_of_runAll all_serve (c := .default) (by decide +kernel)

/-- What that environment makes of that file. -/
def restored : Config :=
  ⟨{ rateless.channel with address := "loop://?logging=info", baudRate := 19200 }, .default⟩

/-- That environment puts a baud rate and an address over what the file says. -/
theorem resolved_restored : Resolved rated rateless restored := by
  obtain ⟨m, hm⟩ := exists_resolved fits_rated rateless
  have hmade : m = (rateless.overridden rated).config :=
    congrArg Overridden.config (overridden_of_resolved hm).symm
  have hsays : (rateless.overridden rated).config = restored := by decide +kernel
  exact (hmade.trans hsays) ▸ hm

/-- A call with flags for the baud rate, the address and the format. -/
def flagged : Arguments := { Arguments.none with url := some "loop://", baud := some 9600, json := true }

/-- The flags win over the environment and the file, once the baud rate of the file was put right by the
environment. -/
theorem flags_over_layers_rated :
    run? (hostWith rated ratelessFile) ["-b9600", "--url", "loop://", "--json"] =
      send? rated ⟨{ rateless.channel with baudRate := 9600 }, ⟨"info", .json⟩⟩ true
        (Text.Utf8.encode "hello, loopback".toList) ∧
    Arguments.read flagged.words = .ok flagged := by
  have hread : Arguments.read ["-b9600", "--url", "loop://", "--json"] = .ok flagged := by rfl
  have hfinds : flagged.Finds (hostWith rated ratelessFile) rateless :=
    @Arguments.Finds.file _ _ Loader.fileName _ (by decide +kernel) (by decide +kernel)
  obtain ⟨-, hwords, r, lower, hr, hlower, hrun, -⟩ := flags_over_layers hread hfinds fits_rated
  have hresult : r = ⟨{ rateless.channel with baudRate := 9600 }, ⟨"info", .json⟩⟩ :=
    ((hr _).1 (Arguments.layered_override resolved_restored)).symm
  have hrate : lower = 19200 := ((hlower _).1 resolved_restored.baudRate).symm
  rw [hresult, hrate, if_neg (by decide), if_neg (by decide)] at hrun
  exact ⟨hrun, hwords fun _ hpath => nomatch hpath⟩

/-- A call may be refused for its configuration even though what its flags make of it passes. -/
theorem flags_not_always_over :
    ¬ ∀ h words a f r, Arguments.read words = .ok a → a.Finds h f → (∀ v ∈ Variable.all, v.Fits h.environment) →
      a.Layered h.environment f r → r.validate = .ok () → ∀ failure, run? h words ≠ refused failure := by
  intro hall
  let a : Arguments := { Arguments.none with baud := some 9600 }
  have hread : Arguments.read ["--baud=9600"] = .ok a := by rfl
  have hfinds : a.Finds (hostWith [] ratelessFile) rateless :=
    @Arguments.Finds.file _ _ Loader.fileName _ (by decide +kernel) (by decide +kernel)
  have hfits : ∀ v ∈ Variable.all, v.Fits [] := fits_of_runAll all_serve (c := .default) (by decide +kernel)
  have hresolved : Resolved [] rateless rateless := by
    obtain ⟨m, hm⟩ := exists_resolved hfits rateless
    have hmade : m = rateless := congrArg Overridden.config (overridden_of_resolved hm).symm
    exact hmade ▸ hm
  have hrefused := run?_of_finds hread hfinds hresolved
  rw [if_neg (by decide), if_pos (by decide)] at hrefused
  exact hall _ _ a _ _ hread hfinds hfits (Arguments.layered_override hresolved) (by decide) _ hrefused

end Loopback.CommandLine
