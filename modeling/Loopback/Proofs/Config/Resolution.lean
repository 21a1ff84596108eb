import Loopback.Config.Loader
import Loopback.Proofs.Config.Decoding
import Loopback.Proofs.Text.Numeral
import Loopback.Proofs.Text.Utf8
import Mathlib.Data.List.Forall2

/-!
# How a configuration is resolved

A configuration is made in three layers: the defaults, the file, and the environment. Each variable of the
environment stands for one field, and which texts it takes for which values is told here as a grammar. The
first variable in order that is set to a text outside its grammar is told as the failure. If there is none,
each field is what its variable says, or else what the file says, or else its default; and what comes of
that is checked for room and a baud rate.
-/

namespace Loopback

namespace Environment

/-- A variable is set to a text, and so to the octets that encode it. -/
def Sets (env : Environment) (name value : String) : Prop :=
  env.octets? name = some (Text.Utf8.encode value.toList)

instance (env : Environment) (name value : String) : Decidable (env.Sets name value) :=
  inferInstanceAs (Decidable (_ = _))

/-- A variable reads as the text that it is set to. -/
theorem text?_eq_some_iff {env : Environment} {name value : String} :
    env.text? name = some value ↔ env.Sets name value := by
  constructor
  · intro h
    obtain ⟨octets, hoctets, h⟩ := Option.bind_eq_some_iff.1 h
    obtain ⟨text, htext, rfl⟩ := Option.map_eq_some_iff.1 h
    rw [Sets, hoctets, Text.Utf8.decode?_eq_some_iff.1 htext, String.toList_ofList]
  · intro h
    simp [text?, Sets.eq_1 .. ▸ h, Text.Utf8.decode?_eq_some_iff.2 rfl]

/-- A variable reads as nothing if it is set to no text: it is not set, or its bytes are not UTF-8. -/
theorem text?_eq_none_iff {env : Environment} {name : String} :
    env.text? name = none ↔ ∀ value, ¬ env.Sets name value := by
  simp only [← text?_eq_some_iff, Option.eq_none_iff_forall_ne_some, ne_eq]

end Environment

namespace Override

section grammars

variable {text : List Char}

/-- A text stands for itself. -/
def Verbatim (text : List Char) (value : String) : Prop := value.toList = text

/-- A number of 64 bits. -/
def Number64 (text : List Char) (value : UInt64) : Prop := Text.IsNumeral (2 ^ 64 - 1) text value.toNat

/-- A number of 32 bits. -/
def Number32 (text : List Char) (value : UInt32) : Prop := Text.IsNumeral (2 ^ 32 - 1) text value.toNat

/-- In any case of its letters a text that says that there is no timeout. -/
def SaysNone (text : List Char) : Prop :=
  text = [] ∨ Text.lowered text = "none".toList ∨ Text.lowered text = "off".toList

/-- A number of milliseconds, or a text that says that there is no timeout. -/
def Timeout (text : List Char) : Option UInt64 → Prop
  | some millis => Number64 text millis
  | none => SaysNone text

/-- The name of a format, in any case of its letters. -/
def FormatName (text : List Char) (value : LogFormat) : Prop :=
  Text.lowered text = (Named.name value).toList

/-- A text is read as it stands. -/
theorem readText_iff {value : String} : readText text = some value ↔ Verbatim text value := by
  rw [readText, Option.some_inj, Verbatim]
  constructor
  · rintro rfl
    exact String.toList_ofList
  · rintro rfl
    exact String.ofList_toList

/-- A 64-bit number is read from its numerals. -/
theorem readUInt64?_iff {value : UInt64} : readUInt64? text = some value ↔ Number64 text value := by
  rw [Number64, ← Text.readNatural_eq_ok_iff, readUInt64?, show 2 ^ 64 - 1 = Text.max64 from rfl]
  split
  next n hn =>
    have hfits : n < 2 ^ 64 := Nat.lt_succ_of_le (Text.readNatural_le hn)
    rw [hn, Option.some_inj, Except.ok.injEq]
    constructor
    · rintro rfl
      exact (UInt64.toNat_ofNat_of_lt' hfits).symm
    · rintro rfl
      exact UInt64.ofNat_toNat
  next hn => simp [hn]

/-- A 32-bit number is read from its numerals. -/
theorem readUInt32?_iff {value : UInt32} : readUInt32? text = some value ↔ Number32 text value := by
  rw [Number32, ← Text.readNatural_eq_ok_iff, readUInt32?, show 2 ^ 32 - 1 = Text.max32 from rfl]
  split
  next n hn =>
    have hfits : n < 2 ^ 32 := Nat.lt_succ_of_le (Text.readNatural_le hn)
    rw [hn, Option.some_inj, Except.ok.injEq]
    constructor
    · rintro rfl
      exact (UInt32.toNat_ofNat_of_lt' hfits).symm
    · rintro rfl
      exact UInt32.ofNat_toNat
  next hn => simp [hn]

/-- The words that mean no timeout are the ones that say so. -/
theorem meansNone_iff : meansNone text = true ↔ SaysNone text := by
  have hsame (word : String) (hword : Text.lowered word.toList = word.toList) :
      Text.sameLetters text word.toList = true ↔ Text.lowered text = word.toList := by
    rw [Text.sameLetters_iff, hword]
  simp only [meansNone, Bool.or_eq_true, hsame "none" rfl, hsame "off" rfl, beq_iff_eq, SaysNone, or_assoc]

/-- A digit has no other case. -/
theorem toLower_of_isDigit {c : Char} (h : c.isDigit = true) : c.toLower = c := by
  unfold Char.toLower
  split
  next hupper =>
    exact absurd (UInt32.le_trans hupper.1 (Text.isDigit_iff.1 h).2) (by decide)
  next => rfl

/-- No number is written by a text that says that there is no timeout. -/
theorem not_number64_of_saysNone {value : UInt64} (h : SaysNone text) : ¬ Number64 text value := by
  rintro ⟨digits, hsome, hdigits, htext, -⟩
  obtain ⟨c, rest, rfl, hc⟩ : ∃ c rest, text = c :: rest ∧ c.toLower ∉ ['n', 'o'] := by
    rcases htext with rfl | rfl
    · obtain ⟨c, rest, rfl⟩ := List.exists_cons_of_ne_nil hsome
      have hdigit := hdigits c List.mem_cons_self
      refine ⟨c, rest, rfl, ?_⟩
      rw [toLower_of_isDigit hdigit]
      rintro (_ | ⟨_, _ | ⟨_, ⟨⟩⟩⟩) <;> cases hdigit
    · exact ⟨'+', digits, rfl, by decide⟩
  have hfirst (d : Char) (word : List Char) (h : Text.lowered (c :: rest) = d :: word) : c.toLower = d :=
    List.head_eq_of_cons_eq h
  rcases h with h | h | h
  · cases h
  · exact hc (by simp [hfirst 'n' _ h])
  · exact hc (by simp [hfirst 'o' _ h])

/-- A timeout is read from a numeral, or from a word that says that there is none. -/
theorem readTimeout?_iff {value : Option UInt64} : readTimeout? text = some value ↔ Timeout text value := by
  unfold readTimeout?
  split
  next hnone =>
    rw [meansNone_iff] at hnone
    cases value with
    | none => simpa [Timeout] using hnone
    | some millis => simpa [Timeout] using not_number64_of_saysNone hnone
  next hsome =>
    rw [meansNone_iff] at hsome
    cases value with
    | none => simpa [Timeout] using hsome
    | some millis => simp [Timeout, readUInt64?_iff]

/-- A format is read from its name. -/
theorem readFormat_iff {value : LogFormat} :
    LogFormat.read? (String.ofList text) = some value ↔ FormatName text value := by
  rw [LogFormat.read?, String.toList_ofList, FormatName]
  constructor
  · intro h
    rw [Named.name_of_find? h, String.toList_ofList]
  · intro h
    rw [h, String.ofList_toList]
    cases value <;> decide

end grammars

/-- What a variable makes of a field: it leaves it alone unless it is set to a text, and sets it to what that
text stands for, without the blanks around it. -/
inductive Overrides {α : Type} (env : Environment) (name : String) (grammar : List Char → α → Prop) (old : α) :
    α → Prop where
  | unset (h : ∀ text, ¬ env.Sets name text) : Overrides env name grammar old old
  | set {text : String} {value : α} (h : env.Sets name text) (hvalue : grammar (Text.trim text.toList) value) :
      Overrides env name grammar old value

/-- What an environment makes of a configuration, field by field. -/
structure Resolved (env : Environment) (f r : Config) : Prop where
  address : Overrides env "LOOP_SERIAL_CHANNEL_PORT" Verbatim f.channel.address r.channel.address
  capacity : Overrides env "LOOP_SERIAL_CHANNEL_CAPACITY" Number64 f.channel.capacity r.channel.capacity
  baudRate : Overrides env "LOOP_SERIAL_CHANNEL_BAUD_RATE" Number32 f.channel.baudRate r.channel.baudRate
  readTimeout : Overrides env "LOOP_SERIAL_CHANNEL_READ_TIMEOUT_MS" Timeout f.channel.readTimeoutMillis
    r.channel.readTimeoutMillis
  writeTimeout : Overrides env "LOOP_SERIAL_CHANNEL_WRITE_TIMEOUT_MS" Timeout f.channel.writeTimeoutMillis
    r.channel.writeTimeoutMillis
  closeSettle : Overrides env "LOOP_SERIAL_CHANNEL_CLOSE_SETTLE_MS" Number64 f.channel.closeSettleMillis
    r.channel.closeSettleMillis
  level : Overrides env "LOOP_SERIAL_LOGGING_LEVEL" Verbatim f.logging.level r.logging.level
  format : Overrides env "LOOP_SERIAL_LOGGING_FORMAT" FormatName f.logging.format r.logging.format
  dataBits : r.channel.dataBits = f.channel.dataBits
  parity : r.channel.parity = f.channel.parity
  stopBits : r.channel.stopBits = f.channel.stopBits
  flowControl : r.channel.flowControl = f.channel.flowControl

/-- A variable by its name, what its value is said to be, and the texts that it takes. -/
structure Variable where
  name : String
  expected : String
  Parses : List Char → Prop

/-- The texts that stand for some value. -/
def Takes {α : Type} (grammar : List Char → α → Prop) (text : List Char) : Prop := ∃ value, grammar text value

/-- The variables, in the order in which they are looked at. -/
def Variable.all : List Variable := [
  ⟨"LOOP_SERIAL_CHANNEL_PORT", "address", Takes Verbatim⟩,
  ⟨"LOOP_SERIAL_CHANNEL_CAPACITY", "capacity", Takes Number64⟩,
  ⟨"LOOP_SERIAL_CHANNEL_BAUD_RATE", "baud rate", Takes Number32⟩,
  ⟨"LOOP_SERIAL_CHANNEL_READ_TIMEOUT_MS", "timeout in milliseconds", Takes Timeout⟩,
  ⟨"LOOP_SERIAL_CHANNEL_WRITE_TIMEOUT_MS", "timeout in milliseconds", Takes Timeout⟩,
  ⟨"LOOP_SERIAL_CHANNEL_CLOSE_SETTLE_MS", "settle time in milliseconds", Takes Number64⟩,
  ⟨"LOOP_SERIAL_LOGGING_LEVEL", "filter directive", Takes Verbatim⟩,
  ⟨"LOOP_SERIAL_LOGGING_FORMAT", "log format", Takes FormatName⟩]

/-- A variable is not set to a text, or to one that it takes, without the blanks around it. -/
def Variable.Fits (v : Variable) (env : Environment) : Prop :=
  ∀ text, env.Sets v.name text → v.Parses (Text.trim text.toList)

section overriding

variable {α : Type} {o : Override} {env : Environment} {grammar : List Char → α → Prop} {get : Config → α}
  {put : α → Config → Config}

/-- An override puts what its variable stands for into a field. -/
structure Puts (o : Override) (grammar : List Char → α → Prop) (get : Config → α)
    (put : α → Config → Config) : Prop where
  apply_iff : ∀ text c c', o.apply text c = some c' ↔ ∃ value, grammar text value ∧ put value c = c'
  put_get : ∀ c, put (get c) c = c

/-- Put a value into the channel's part. -/
def onlyChannel (put : α → ChannelConfig → ChannelConfig) (value : α) (c : Config) : Config :=
  { c with channel := put value c.channel }

/-- Put a value into the part about printing events. -/
def onlyLogging (put : α → LoggingConfig → LoggingConfig) (value : α) (c : Config) : Config :=
  { c with logging := put value c.logging }

/-- An override that reads a value for the channel puts it there, and nothing else changes. -/
theorem puts_onChannel {name expected : String} {read : List Char → Option α} {get : ChannelConfig → α}
    {put : α → ChannelConfig → ChannelConfig}
    (hread : ∀ text value, read text = some value ↔ grammar text value) (hput : ∀ c, put (get c) c = c) :
    Puts ⟨name, expected, onChannel read put⟩ grammar (fun c => get c.channel)
      (onlyChannel put) where
  apply_iff := by simp [onChannel, onlyChannel, hread]
  put_get := by simp [onlyChannel, hput]

/-- An override that reads a value for logging puts it there, and nothing else changes. -/
theorem puts_onLogging {name expected : String} {read : List Char → Option α} {get : LoggingConfig → α}
    {put : α → LoggingConfig → LoggingConfig}
    (hread : ∀ text value, read text = some value ↔ grammar text value) (hput : ∀ c, put (get c) c = c) :
    Puts ⟨name, expected, onLogging read put⟩ grammar (fun c => get c.logging)
      (onlyLogging put) where
  apply_iff := by simp [onLogging, onlyLogging, hread]
  put_get := by simp [onlyLogging, hput]

/-- What a variable makes of its field, its override puts there. -/
theorem run_of_overrides {c : Config} {value : α} (ho : Puts o grammar get put)
    (h : Overrides env o.name grammar (get c) value) : o.run env c = .ok (put value c) := by
  cases h with
  | unset hunset => simp [run, Environment.text?_eq_none_iff.2 hunset, ho.put_get]
  | set hset hvalue =>
    have happly := (ho.apply_iff _ c _).2 ⟨value, hvalue, rfl⟩
    simp [run, Environment.text?_eq_some_iff.2 hset, happly]

/-- An override that can be decided puts its value, and the others go on from there. -/
theorem runAll_of_overrides {c : Config} {value : α} {rest : List Override} (ho : Puts o grammar get put)
    (h : Overrides env o.name grammar (get c) value) :
    runAll env (o :: rest) c = runAll env rest (put value c) := by
  rw [runAll, run_of_overrides ho h]

/-- An override is that of a variable. -/
structure Serves (o : Override) (v : Variable) : Prop where
  name : o.name = v.name
  expected : o.expected = v.expected
  apply_isSome : ∀ text c, (o.apply text c).isSome = true ↔ v.Parses text

/-- An override that puts a value serves the variable of its name. -/
theorem serves_of_puts (ho : Puts o grammar get put) : Serves o ⟨o.name, o.expected, Takes grammar⟩ where
  name := rfl
  expected := rfl
  apply_isSome := by simp [Option.isSome_iff_exists, ho.apply_iff, Takes]

/-- An override passes where its variable fits. -/
theorem exists_run_of_fits {v : Variable} (ho : Serves o v) (h : v.Fits env) (c : Config) :
    ∃ c', o.run env c = .ok c' := by
  cases hset : env.text? o.name with
  | none => exact ⟨c, by simp [run, hset]⟩
  | some text =>
    rw [ho.name, Environment.text?_eq_some_iff] at hset
    obtain ⟨c', hc'⟩ := Option.isSome_iff_exists.1 ((ho.apply_isSome _ c).2 (h text hset))
    exact ⟨c', by simp [run, ho.name, Environment.text?_eq_some_iff.2 hset, hc']⟩

/-- An override fails, and says so, where its variable is set to a text that it does not take. -/
theorem run_of_misfit {v : Variable} {text : String} (ho : Serves o v) (hset : env.Sets v.name text)
    (h : ¬ v.Parses (Text.trim text.toList)) (c : Config) :
    o.run env c = .error (.environment v.name text v.expected) := by
  have hnone : o.apply (Text.trim text.toList) c = none := by
    simpa [← ho.apply_isSome _ c] using h
  simp [run, ho.name, ho.expected, Environment.text?_eq_some_iff.2 hset, hnone]

/-- The first variable that does not fit is told as the failure. -/
theorem runAll_of_misfit {overrides : List Override} {before after : List Variable} {v : Variable} {text : String}
    (hserve : List.Forall₂ Serves overrides (before ++ v :: after)) (hfits : ∀ u ∈ before, u.Fits env)
    (hset : env.Sets v.name text) (h : ¬ v.Parses (Text.trim text.toList)) (c : Config) :
    (runAll env overrides c).failure = some (.environment v.name text v.expected) := by
  induction before generalizing overrides c with
  | nil =>
    cases hserve with
    | cons ho _ => rw [runAll, run_of_misfit ho hset h]
  | cons u before ih =>
    cases hserve with
    | cons ho hrest =>
      obtain ⟨c', hc'⟩ := exists_run_of_fits ho (hfits u List.mem_cons_self) c
      rw [runAll, hc']
      exact ih hrest (fun u hu => hfits u (List.mem_cons_of_mem _ hu)) c'

/-- Where nothing fails, all variables fit. -/
theorem fits_of_runAll {overrides : List Override} {vs : List Variable} {c : Config}
    (hserve : List.Forall₂ Serves overrides vs) (h : (runAll env overrides c).failure = none) :
    ∀ v ∈ vs, v.Fits env := by
  induction hserve generalizing c with
  | nil => simp
  | @cons o v overrides vs ho hrest ih =>
    cases hrun : o.run env c with
    | error failure => simp [runAll, hrun] at h
    | ok c' =>
      rw [runAll, hrun] at h
      refine List.forall_mem_cons.2 ⟨fun text hset => ?_, ih h⟩
      by_contra hmisfit
      rw [run_of_misfit ho hset hmisfit] at hrun
      cases hrun

/-- A variable whose text parses, if it has any, decides a value. -/
theorem exists_overrides (name : String) (old : α)
    (h : ∀ text, env.Sets name text → Takes grammar (Text.trim text.toList)) :
    ∃ value, Overrides env name grammar old value := by
  by_cases hset : ∃ text, env.Sets name text
  · obtain ⟨text, htext⟩ := hset
    obtain ⟨value, hvalue⟩ := h text htext
    exact ⟨value, .set htext hvalue⟩
  · exact ⟨old, .unset (not_exists.1 hset)⟩

end overriding

section fields

/-- The override for the port puts an address, whatever its text is. -/
theorem puts_address :
    Puts ⟨"LOOP_SERIAL_CHANNEL_PORT", "address", onChannel readText fun x c => { c with address := x }⟩
      Verbatim (fun c => c.channel.address) (onlyChannel fun x c => { c with address := x }) :=
  puts_onChannel (fun _ _ => readText_iff) fun _ => rfl

/-- The override for the capacity puts a number of 64 bits. -/
theorem puts_capacity :
    Puts ⟨"LOOP_SERIAL_CHANNEL_CAPACITY", "capacity", onChannel readUInt64? fun x c => { c with capacity := x }⟩
      Number64 (fun c => c.channel.capacity) (onlyChannel fun x c => { c with capacity := x }) :=
  puts_onChannel (fun _ _ => readUInt64?_iff) fun _ => rfl

/-- The override for the baud rate puts a number of 32 bits. -/
theorem puts_baudRate :
    Puts ⟨"LOOP_SERIAL_CHANNEL_BAUD_RATE", "baud rate", onChannel readUInt32? fun x c => { c with baudRate := x }⟩
      Number32 (fun c => c.channel.baudRate) (onlyChannel fun x c => { c with baudRate := x }) :=
  puts_onChannel (fun _ _ => readUInt32?_iff) fun _ => rfl

/-- The override for the timeout of reads puts a number of milliseconds or none. -/
theorem puts_readTimeout :
    Puts ⟨"LOOP_SERIAL_CHANNEL_READ_TIMEOUT_MS", "timeout in milliseconds",
        onChannel readTimeout? fun x c => { c with readTimeoutMillis := x }⟩
      Timeout (fun c => c.channel.readTimeoutMillis)
      (onlyChannel fun x c => { c with readTimeoutMillis := x }) :=
  puts_onChannel (fun _ _ => readTimeout?_iff) fun _ => rfl

/-- The override for the timeout of writes puts a number of milliseconds or none. -/
theorem puts_writeTimeout :
    Puts ⟨"LOOP_SERIAL_CHANNEL_WRITE_TIMEOUT_MS", "timeout in milliseconds",
        onChannel readTimeout? fun x c => { c with writeTimeoutMillis := x }⟩
      Timeout (fun c => c.channel.writeTimeoutMillis)
      (onlyChannel fun x c => { c with writeTimeoutMillis := x }) :=
  puts_onChannel (fun _ _ => readTimeout?_iff) fun _ => rfl

/-- The override for the pause after closing puts a number of 64 bits. -/
theorem puts_closeSettle :
    Puts ⟨"LOOP_SERIAL_CHANNEL_CLOSE_SETTLE_MS", "settle time in milliseconds",
        onChannel readUInt64? fun x c => { c with closeSettleMillis := x }⟩
      Number64 (fun c => c.channel.closeSettleMillis)
      (onlyChannel fun x c => { c with closeSettleMillis := x }) :=
  puts_onChannel (fun _ _ => readUInt64?_iff) fun _ => rfl

/-- The override for the level of logging puts a filter, whatever its text is. -/
theorem puts_level :
    Puts ⟨"LOOP_SERIAL_LOGGING_LEVEL", "filter directive", onLogging readText fun x c => { c with level := x }⟩
      Verbatim (fun c => c.logging.level) (onlyLogging fun x c => { c with level := x }) :=
  puts_onLogging (fun _ _ => readText_iff) fun _ => rfl

/-- The override for the format of logging puts one that has a name. -/
theorem puts_format :
    Puts ⟨"LOOP_SERIAL_LOGGING_FORMAT", "log format",
        onLogging (fun text => LogFormat.read? (String.ofList text)) fun x c => { c with format := x }⟩
      FormatName (fun c => c.logging.format) (onlyLogging fun x c => { c with format := x }) :=
  puts_onLogging (fun _ _ => readFormat_iff) fun _ => rfl

variable {env : Environment} {f r : Config}

/-- The overrides serve the documented variables, in their order. -/
theorem all_serve : List.Forall₂ Serves all Variable.all :=
  .cons (serves_of_puts puts_address) (.cons (serves_of_puts puts_capacity)
    (.cons (serves_of_puts puts_baudRate) (.cons (serves_of_puts puts_readTimeout)
      (.cons (serves_of_puts puts_writeTimeout) (.cons (serves_of_puts puts_closeSettle)
        (.cons (serves_of_puts puts_level) (.cons (serves_of_puts puts_format) .nil)))))))

/-- What an environment makes of a configuration is what its overrides make of it. -/
theorem overridden_of_resolved (h : Resolved env f r) : f.overridden env = ⟨r, none⟩ := by
  have hrun := calc
    f.overridden env = runAll env all f := rfl
    _ = _ := runAll_of_overrides puts_address h.address
    _ = _ := runAll_of_overrides puts_capacity h.capacity
    _ = _ := runAll_of_overrides puts_baudRate h.baudRate
    _ = _ := runAll_of_overrides puts_readTimeout h.readTimeout
    _ = _ := runAll_of_overrides puts_writeTimeout h.writeTimeout
    _ = _ := runAll_of_overrides puts_closeSettle h.closeSettle
    _ = _ := runAll_of_overrides puts_level h.level
    _ = _ := runAll_of_overrides puts_format h.format
  obtain ⟨⟨_, _, _, _, _, _, _, _, _, _⟩, _, _⟩ := r
  obtain ⟨rfl, rfl, rfl, rfl⟩ : _ ∧ _ ∧ _ ∧ _ := ⟨h.dataBits, h.parity, h.stopBits, h.flowControl⟩
  exact hrun

/-- Where all variables fit, the environment makes something of every configuration. -/
theorem exists_resolved (h : ∀ v ∈ Variable.all, v.Fits env) (f : Config) : ∃ r, Resolved env f r := by
  simp only [Variable.all, List.forall_mem_cons, List.not_mem_nil, false_implies, implies_true, and_true] at h
  obtain ⟨haddress, hcapacity, hbaud, hread, hwrite, hsettle, hlevel, hformat⟩ := h
  obtain ⟨address, haddress⟩ := exists_overrides _ f.channel.address haddress
  obtain ⟨capacity, hcapacity⟩ := exists_overrides _ f.channel.capacity hcapacity
  obtain ⟨baudRate, hbaud⟩ := exists_overrides _ f.channel.baudRate hbaud
  obtain ⟨readTimeout, hread⟩ := exists_overrides _ f.channel.readTimeoutMillis hread
  obtain ⟨writeTimeout, hwrite⟩ := exists_overrides _ f.channel.writeTimeoutMillis hwrite
  obtain ⟨closeSettle, hsettle⟩ := exists_overrides _ f.channel.closeSettleMillis hsettle
  obtain ⟨level, hlevel⟩ := exists_overrides _ f.logging.level hlevel
  obtain ⟨format, hformat⟩ := exists_overrides _ f.logging.format hformat
  exact ⟨⟨{ f.channel with
      address, capacity, baudRate, readTimeoutMillis := readTimeout, writeTimeoutMillis := writeTimeout,
      closeSettleMillis := closeSettle }, ⟨level, format⟩⟩,
    haddress, hcapacity, hbaud, hread, hwrite, hsettle, hlevel, hformat, rfl, rfl, rfl, rfl⟩

end fields

end Override

namespace Loader

open Override

variable {h : Host} {path : Path} {f r : Config}

/-- What is read as a configuration is a text with entries. -/
theorem exists_entries_of_readConfig (hf : readConfig h path = .ok f) :
    ∃ text entries, h.readText path = .ok text ∧ Toml.parse? text = some entries ∧
      Config.ofEntries entries = .ok f := by
  unfold readConfig at hf
  split at hf
  · cases hf
  next text htext =>
    split at hf
    · cases hf
    next entries hentries =>
      split at hf
      · cases hf
      next hdecoded =>
        cases hf
        exact ⟨text, entries, htext, hentries, hdecoded⟩

/-- The first variable whose text does not parse is what loading fails with. -/
theorem loadFrom_of_misfit {before after : List Variable} {v : Variable} {text : String}
    (hf : readConfig h path = .ok f) (hall : Variable.all = before ++ v :: after)
    (hfits : ∀ u ∈ before, u.Fits h.environment) (hset : h.environment.Sets v.name text)
    (hmisfit : ¬ v.Parses (Text.trim text.toList)) :
    loadFrom h path = .error (.environment v.name text v.expected) := by
  have hfailure : (f.overridden h.environment).failure = some (.environment v.name text v.expected) :=
    runAll_of_misfit (hall ▸ all_serve) hfits hset hmisfit f
  rw [loadFrom, hf]
  dsimp only
  unfold complete
  split
  next hoverridden =>
    rw [hoverridden] at hfailure
    exact congrArg Except.error (Option.some.inj hfailure)
  next hoverridden =>
    rw [hoverridden] at hfailure
    cases hfailure

/-- Where every variable decides a value, loading comes to the resolved configuration, if that is valid. -/
theorem loadFrom_of_resolved (hf : readConfig h path = .ok f) (hr : Resolved h.environment f r) :
    loadFrom h path =
      if r.channel.capacity = 0 then .error (.outOfRange "channel.capacity" "must be at least 1")
      else if r.channel.baudRate = 0 then .error (.channel (.invalidBaudRate 0))
      else .ok ⟨some path, r⟩ := by
  rw [loadFrom, hf]
  dsimp only
  rw [complete, overridden_of_resolved hr]
  dsimp only
  rw [r.validate_eq]
  split_ifs <;> rfl

/-- A file that decodes to a configuration says of each field what it is, or leaves it at its default, and its
entries under unknown keys do not matter. The first variable that does not fit is then told as the failure; and
if all fit, what they make of the configuration is checked. -/
theorem loadFrom_resolution (hf : readConfig h path = .ok f) :
    (∃ text entries, h.readText path = .ok text ∧ Toml.parse? text = some entries ∧ f.Reads entries ∧
      Config.ofEntries (Config.known entries) = .ok f) ∧
    (∀ before v after text, Variable.all = before ++ v :: after → (∀ u ∈ before, u.Fits h.environment) →
      h.environment.Sets v.name text → ¬ v.Parses (Text.trim text.toList) →
      loadFrom h path = .error (.environment v.name text v.expected)) ∧
    ((∀ v ∈ Variable.all, v.Fits h.environment) →
      ∃ r, (∀ r', Resolved h.environment f r' ↔ r' = r) ∧
        loadFrom h path =
          if r.channel.capacity = 0 then .error (.outOfRange "channel.capacity" "must be at least 1")
          else if r.channel.baudRate = 0 then .error (.channel (.invalidBaudRate 0))
          else .ok ⟨some path, r⟩) := by
  refine ⟨?_, fun _ _ _ _ => loadFrom_of_misfit hf, fun hfits => ?_⟩
  · obtain ⟨text, entries, htext, hentries, hdecoded⟩ := exists_entries_of_readConfig hf
    exact ⟨text, entries, htext, hentries, Config.reads_of_ofEntries hdecoded,
      (Config.ofEntries_known entries).trans hdecoded⟩
  · obtain ⟨r, hr⟩ := exists_resolved hfits f
    refine ⟨r, fun r' => ⟨fun hr' => ?_, fun heq => heq ▸ hr⟩, loadFrom_of_resolved hf hr⟩
    exact congrArg Overridden.config ((overridden_of_resolved hr').symm.trans (overridden_of_resolved hr))

/-- A host with one configuration file, of which a key is not known. -/
def furnished (environment : Environment) : Host where
  environment
  files := ⟨[([Path.ofText "loop.toml"], .file 0)],
    [(0, Text.Utf8.encode "[channel]\ncapacity = 8\nstop_bits = 'two'\nvolume = 11\n".toList)]⟩
  workingDirectory := []

/-- What that file says. -/
def filed : Config := ⟨{ ChannelConfig.default with capacity := 8, stopBits := .two }, .default⟩

/-- A variable with a text. -/
def worded (name value : String) : String × List UInt8 := (name, Text.Utf8.encode value.toList)

/-- An environment with a sign that has no digits, and with the name of no format. -/
def signOnly : Environment := [
  worded "LOOP_SERIAL_LOGGING_FORMAT" "xml",
  worded "LOOP_SERIAL_CHANNEL_CAPACITY" " + ",
  worded "LOOP_SERIAL_CHANNEL_PORT" "loop://x"]

/-- An environment with blanks, and with a value that is no text. -/
def wellWorded : Environment := [
  worded "LOOP_SERIAL_CHANNEL_PORT" "\t ",
  ("LOOP_SERIAL_CHANNEL_CAPACITY", [0xff]),
  worded "LOOP_SERIAL_CHANNEL_READ_TIMEOUT_MS" "+07",
  worded "LOOP_SERIAL_LOGGING_FORMAT" "JSON"]

/-- A sign without digits is told as the failure, and blanks, octets that are no text and a name in capitals are
not. -/
theorem loadFrom_resolution_furnished :
    loadFrom (furnished signOnly) (.ofText "loop.toml") =
      .error (.environment "LOOP_SERIAL_CHANNEL_CAPACITY" " + " "capacity") ∧
    ∃ r, (∀ r', Resolved wellWorded filed r' ↔ r' = r) ∧
      loadFrom (furnished wellWorded) (.ofText "loop.toml") =
        if r.channel.capacity = 0 then .error (.outOfRange "channel.capacity" "must be at least 1")
        else if r.channel.baudRate = 0 then .error (.channel (.invalidBaudRate 0))
        else .ok ⟨some (.ofText "loop.toml"), r⟩ := by
  have hsign : ¬ Takes Number64 (Text.trim " + ".toList) := by
    rintro ⟨value, hvalue⟩
    have hnone : readUInt64? (Text.trim " + ".toList) = none := by decide
    rw [← readUInt64?_iff, hnone] at hvalue
    cases hvalue
  have hport : ∀ v ∈ [⟨"LOOP_SERIAL_CHANNEL_PORT", "address", Takes Verbatim⟩], Variable.Fits v signOnly :=
    fits_of_runAll (.cons (serves_of_puts puts_address) .nil) (c := .default) (by decide +kernel)
  have hall : ∀ v ∈ Variable.all, v.Fits wellWorded :=
    fits_of_runAll all_serve (c := .default) (by decide +kernel)
  have hsigned : readConfig (furnished signOnly) (.ofText "loop.toml") = .ok filed := by decide +kernel
  have hworded : readConfig (furnished wellWorded) (.ofText "loop.toml") = .ok filed := by decide +kernel
  constructor
  · exact (loadFrom_resolution hsigned).2.1 _ _ _ " + " rfl hport (by decide +kernel) hsign
  · exact (loadFrom_resolution hworded).2.2 hall

end Loader

end Loopback
