import Loopback.Proofs.Config.Resolution
import Loopback.Proofs.Host.Written
import Mathlib.Data.List.Nodup

/-!
# Overrides up to the first misfit

Where a configuration is made of the defaults and the environment alone, a variable that does not parse is no
failure. But the variables are applied in turn and up to the first of these: that one is reported, and all that
come after it are left out too, whether they would fit or not. So the result is as if each variable were applied
or left out by itself only if none of the later ones would have made a difference.
-/

namespace Loopback

namespace Environment

/-- A variable is set to one text at most. -/
theorem Sets.unique {env : Environment} {name text text' : String} (h : env.Sets name text)
    (h' : env.Sets name text') : text = text' :=
  Option.some.inj ((text?_eq_some_iff.2 h).symm.trans (text?_eq_some_iff.2 h'))

end Environment

namespace Override

/-- What a variable that is set makes of its field is what its text stands for. -/
theorem Overrides.value_of_sets {α : Type} {env : Environment} {name text : String}
    {grammar : List Char → α → Prop} {old value : α} (h : Overrides env name grammar old value)
    (hset : env.Sets name text) : grammar (Text.trim text.toList) value := by
  cases h with
  | unset hunset => exact absurd hset (hunset text)
  | set hset' hvalue =>
    obtain rfl := hset.unique hset'
    exact hvalue

/-- A variable that is set to no text leaves its field as it is. -/
theorem Overrides.eq_of_unset {α : Type} {env : Environment} {name : String} {grammar : List Char → α → Prop}
    {old value : α} (h : Overrides env name grammar old value) (hunset : ∀ text, ¬ env.Sets name text) :
    value = old := by
  cases h with
  | unset => rfl
  | set hset => exact absurd hset (hunset _)

/-- What a variable stands for: its field, and which texts it takes for which values. -/
structure Field where
  Value : Type
  name : String
  expected : String
  grammar : List Char → Value → Prop
  get : Config → Value

namespace Field

/-- The fields that variables stand for, in the order in which these are looked at. -/
def all : List Field := [
  ⟨_, "LOOP_SERIAL_CHANNEL_PORT", "address", Verbatim, fun c => c.channel.address⟩,
  ⟨_, "LOOP_SERIAL_CHANNEL_CAPACITY", "capacity", Number64, fun c => c.channel.capacity⟩,
  ⟨_, "LOOP_SERIAL_CHANNEL_BAUD_RATE", "baud rate", Number32, fun c => c.channel.baudRate⟩,
  ⟨_, "LOOP_SERIAL_CHANNEL_READ_TIMEOUT_MS", "timeout in milliseconds", Timeout,
    fun c => c.channel.readTimeoutMillis⟩,
  ⟨_, "LOOP_SERIAL_CHANNEL_WRITE_TIMEOUT_MS", "timeout in milliseconds", Timeout,
    fun c => c.channel.writeTimeoutMillis⟩,
  ⟨_, "LOOP_SERIAL_CHANNEL_CLOSE_SETTLE_MS", "settle time in milliseconds", Number64,
    fun c => c.channel.closeSettleMillis⟩,
  ⟨_, "LOOP_SERIAL_LOGGING_LEVEL", "filter directive", Verbatim, fun c => c.logging.level⟩,
  ⟨_, "LOOP_SERIAL_LOGGING_FORMAT", "log format", FormatName, fun c => c.logging.format⟩]

/-- The variable that stands for a field. -/
def toVariable (field : Field) : Variable := ⟨field.name, field.expected, Takes field.grammar⟩

/-- The fields stand for the documented variables, in their order. -/
theorem map_toVariable_all : all.map toVariable = Variable.all := rfl

/-- What the variable of a field makes of it. -/
def Makes (field : Field) (env : Environment) (f r : Config) : Prop :=
  Overrides env field.name field.grammar (field.get f) (field.get r)

end Field

/-- No variable stands for the framing of a character or the flow control. -/
structure SameFraming (f r : Config) : Prop where
  dataBits : r.channel.dataBits = f.channel.dataBits
  parity : r.channel.parity = f.channel.parity
  stopBits : r.channel.stopBits = f.channel.stopBits
  flowControl : r.channel.flowControl = f.channel.flowControl

/-- The default configuration in which certain variables have taken effect, and each other one has left its
field at the default. -/
structure Yields (env : Environment) (counts : Variable → Prop) (r : Config) : Prop where
  effect : ∀ field ∈ Field.all, counts field.toVariable → field.Makes env .default r
  default : ∀ field ∈ Field.all, ¬ counts field.toVariable → field.get r = field.get .default
  framing : SameFraming .default r

section fields

variable {env limited : Environment} {f r s : Config} {counts counts' : Variable → Prop}

/-- What an environment makes of a configuration is what it makes of each field. -/
theorem resolved_iff :
    Resolved env f r ↔ (∀ field ∈ Field.all, field.Makes env f r) ∧ SameFraming f r := by
  simp only [Field.all, List.forall_mem_cons, List.not_mem_nil, false_implies, implies_true, and_true]
  constructor
  · intro h
    exact ⟨⟨h.address, h.capacity, h.baudRate, h.readTimeout, h.writeTimeout, h.closeSettle, h.level, h.format⟩,
      h.dataBits, h.parity, h.stopBits, h.flowControl⟩
  · rintro ⟨⟨haddress, hcapacity, hbaud, hread, hwrite, hsettle, hlevel, hformat⟩, hframing⟩
    exact ⟨haddress, hcapacity, hbaud, hread, hwrite, hsettle, hlevel, hformat, hframing.dataBits,
      hframing.parity, hframing.stopBits, hframing.flowControl⟩

/-- Configurations of one framing differ in the fields that variables stand for, if at all. -/
theorem eq_iff_get (hr : SameFraming f r) (hs : SameFraming f s) :
    r = s ↔ ∀ field ∈ Field.all, field.get r = field.get s := by
  refine ⟨fun h _ _ => h ▸ rfl, fun h => ?_⟩
  simp only [Field.all, List.forall_mem_cons, List.not_mem_nil, false_implies, implies_true, and_true] at h
  obtain ⟨⟨_, _, _, _, _, _, _, _, _, _⟩, _, _⟩ := r
  obtain ⟨⟨_, _, _, _, _, _, _, _, _, _⟩, _, _⟩ := s
  have hbits := hr.dataBits.trans hs.dataBits.symm
  have hparity := hr.parity.trans hs.parity.symm
  have hstop := hr.stopBits.trans hs.stopBits.symm
  have hflow := hr.flowControl.trans hs.flowControl.symm
  simp_all

/-- What can be read off a text is one value. -/
theorem value_unique {α : Type} {read : Option α} {stands : α → Prop}
    (hread : ∀ value, read = some value ↔ stands value) {x y : α} (hx : stands x) (hy : stands y) : x = y :=
  Option.some.inj (((hread x).2 hx).symm.trans ((hread y).2 hy))

/-- A text stands for one value of a field at most. -/
theorem Field.grammar_unique {field : Field} (hfield : field ∈ Field.all) {text : List Char}
    {x y : field.Value} : field.grammar text x → field.grammar text y → x = y := by
  revert field
  simp only [Field.all, List.forall_mem_cons, List.not_mem_nil, false_implies, implies_true, and_true]
  exact ⟨value_unique fun _ => readText_iff, value_unique fun _ => readUInt64?_iff,
    value_unique fun _ => readUInt32?_iff, value_unique fun _ => readTimeout?_iff,
    value_unique fun _ => readTimeout?_iff, value_unique fun _ => readUInt64?_iff,
    value_unique fun _ => readText_iff, value_unique fun _ => readFormat_iff⟩

/-- A variable makes one thing of a field. -/
theorem Field.makes_unique {field : Field} (hfield : field ∈ Field.all) (hr : field.Makes env f r)
    (hs : field.Makes env f s) : field.get r = field.get s := by
  by_cases hset : ∃ text, env.Sets field.name text
  · obtain ⟨text, hset⟩ := hset
    exact grammar_unique hfield (hr.value_of_sets hset) (hs.value_of_sets hset)
  · unfold Makes at hr hs
    rw [hr.eq_of_unset (not_exists.1 hset), hs.eq_of_unset (not_exists.1 hset)]

end fields

section counting

variable {env limited : Environment} {r s : Config} {counts counts' : Variable → Prop}

/-- Of the variables that an environment sets, another sets those that count. -/
def Limits (limited env : Environment) (counts : Variable → Prop) : Prop :=
  ∀ v ∈ Variable.all, ∀ text, limited.Sets v.name text ↔ counts v ∧ env.Sets v.name text

/-- No two variables have one name. -/
theorem nodup_names : (Variable.all.map Variable.name).Nodup := by decide

/-- The variables that count can be set without the others. -/
theorem exists_limits (env : Environment) (counts : Variable → Prop) : ∃ limited, Limits limited env counts := by
  classical
  let keeps (name : String) : Bool := decide (∃ v ∈ Variable.all, counts v ∧ v.name = name)
  refine ⟨env.filter fun entry => keeps entry.1, fun v hv text => ?_⟩
  have hkeeps : keeps v.name = true ↔ counts v := by
    rw [decide_eq_true_iff]
    refine ⟨?_, fun h => ⟨v, hv, h, rfl⟩⟩
    rintro ⟨u, hu, hcounts, hname⟩
    rwa [← List.inj_on_of_nodup_map nodup_names hu hv hname]
  rw [Environment.Sets, Environment.octets?, lookup_filter]
  by_cases h : counts v
  · rw [if_pos (hkeeps.2 h)]
    exact (and_iff_right h).symm
  · rw [if_neg (mt hkeeps.1 h)]
    simp [h]

/-- A variable that counts makes of its field what it always makes, and any other one makes nothing. -/
theorem overrides_of_limits {α : Type} {grammar : List Char → α → Prop} {old value : α}
    (hlimits : Limits limited env counts) {v : Variable} (hv : v ∈ Variable.all)
    (h : Overrides limited v.name grammar old value) :
    (counts v → Overrides env v.name grammar old value) ∧ (¬ counts v → value = old) := by
  cases h with
  | unset hunset =>
    exact ⟨fun hcounts => .unset fun text hset => hunset text ((hlimits v hv text).2 ⟨hcounts, hset⟩),
      fun _ => rfl⟩
  | set hset hvalue =>
    obtain ⟨hcounts, hset⟩ := (hlimits v hv _).1 hset
    exact ⟨fun _ => .set hset hvalue, fun hnot => absurd hcounts hnot⟩

/-- The variable of a field is one of those documented. -/
theorem Field.toVariable_mem {field : Field} (hfield : field ∈ Field.all) : field.toVariable ∈ Variable.all :=
  map_toVariable_all ▸ List.mem_map_of_mem hfield

/-- What an environment limited to what counts resolves to is what that yields. -/
theorem yields_of_resolved (hlimits : Limits limited env counts) (h : Resolved limited .default r) :
    Yields env counts r := by
  obtain ⟨hmakes, hframing⟩ := resolved_iff.1 h
  have hboth := fun field hfield =>
    overrides_of_limits hlimits (Field.toVariable_mem hfield) (hmakes field hfield)
  exact ⟨fun field hfield => (hboth field hfield).1, fun field hfield => (hboth field hfield).2, hframing⟩

/-- A limited environment has no misfits if those that count fit. -/
theorem fits_of_limits (hlimits : Limits limited env counts)
    (h : ∀ v ∈ Variable.all, counts v → v.Fits env) : ∀ v ∈ Variable.all, v.Fits limited := by
  intro v hv text hset
  obtain ⟨hcounts, hset⟩ := (hlimits v hv text).1 hset
  exact h v hv hcounts text hset

/-- If all variables that count fit, they yield something. -/
theorem exists_yields (h : ∀ v ∈ Variable.all, counts v → v.Fits env) : ∃ r, Yields env counts r := by
  obtain ⟨limited, hlimits⟩ := exists_limits env counts
  obtain ⟨r, hr⟩ := exists_resolved (fits_of_limits hlimits h) .default
  exact ⟨r, yields_of_resolved hlimits hr⟩

/-- Whether more variables count makes no difference exactly if none of those would by itself. -/
theorem Yields.eq_iff (hr : Yields env counts r) (hs : Yields env counts' s)
    (himp : ∀ v ∈ Variable.all, counts v → counts' v) :
    r = s ↔ ∀ v ∈ Variable.all, counts' v → ¬ counts v → Yields env (· = v) .default := by
  constructor
  · rintro rfl v hv hcounts' hcounts
    refine ⟨fun field hfield hvariable => ?_, fun _ _ _ => rfl, ⟨rfl, rfl, rfl, rfl⟩⟩
    subst hvariable
    have hmakes := hs.effect field hfield hcounts'
    unfold Field.Makes at hmakes
    rwa [hr.default field hfield hcounts] at hmakes
  · refine fun h => (eq_iff_get hr.framing hs.framing).2 fun field hfield => ?_
    have hv := Field.toVariable_mem hfield
    by_cases hcounts : counts field.toVariable
    · exact Field.makes_unique hfield (hr.effect field hfield hcounts)
        (hs.effect field hfield (himp _ hv hcounts))
    · rw [hr.default field hfield hcounts]
      by_cases hcounts' : counts' field.toVariable
      · exact Field.makes_unique hfield ((h _ hv hcounts' hcounts).effect field hfield rfl)
          (hs.effect field hfield hcounts')
      · exact (hs.default field hfield hcounts').symm

/-- What counts yields one configuration only. -/
theorem Yields.unique (hr : Yields env counts r) (hs : Yields env counts s) : r = s :=
  (hr.eq_iff hs fun _ _ => id).2 fun _ _ hcounts hnot => absurd hcounts hnot

end counting

section misfit

variable {env limited : Environment} {overrides : List Override} {vs before after : List Variable} {v : Variable}
  {text : String}

/-- Variables that are not set change nothing. -/
theorem runAll_of_unset (hserve : List.Forall₂ Serves overrides vs) (hunset : ∀ u ∈ vs, env.text? u.name = none)
    (c : Config) : runAll env overrides c = ⟨c, none⟩ := by
  induction hserve with
  | nil => rfl
  | @cons o u overrides vs ho _ ih =>
    obtain ⟨hnone, hrest⟩ := List.forall_mem_cons.1 hunset
    have hrun : o.run env c = .ok c := by simp only [run, ho.name, hnone]
    rw [runAll, hrun]
    exact ih hrest

/-- Up to the first misfit the variables have taken effect, and those that come after it have not. -/
theorem config_runAll_of_misfit (hserve : List.Forall₂ Serves overrides (before ++ v :: after))
    (hfits : ∀ u ∈ before, u.Fits env) (hset : env.Sets v.name text)
    (hmisfit : ¬ v.Parses (Text.trim text.toList))
    (hbefore : ∀ u ∈ before, limited.text? u.name = env.text? u.name)
    (hafter : ∀ u ∈ v :: after, limited.text? u.name = none) (c : Config) :
    (runAll env overrides c).config = (runAll limited overrides c).config := by
  induction before generalizing overrides c with
  | nil =>
    rw [runAll_of_unset hserve hafter]
    cases hserve with
    | cons ho _ => rw [runAll, run_of_misfit ho hset hmisfit]
  | cons u before ih =>
    cases hserve with
    | @cons o _ overrides _ ho hrest =>
      obtain ⟨hsame, hbefore⟩ := List.forall_mem_cons.1 hbefore
      obtain ⟨hfit, hfits⟩ := List.forall_mem_cons.1 hfits
      obtain ⟨c', hc'⟩ := exists_run_of_fits ho hfit c
      have hrun : o.run limited c = o.run env c := by simp only [run, ho.name, hsame]
      rw [runAll, runAll, hrun, hc']
      exact ih hrest hfits hbefore c'

/-- Of all variables, either each fits, or there is a first that does not. -/
theorem fits_or_exists_misfit (env : Environment) (vs : List Variable) :
    (∀ v ∈ vs, v.Fits env) ∨ ∃ before v after text, vs = before ++ v :: after ∧ (∀ u ∈ before, u.Fits env) ∧
      env.Sets v.name text ∧ ¬ v.Parses (Text.trim text.toList) := by
  induction vs with
  | nil => exact .inl (by simp)
  | cons v vs ih =>
    by_cases hfit : v.Fits env
    · rcases ih with hall | ⟨before, u, after, text, rfl, hfits, hmisfit⟩
      · exact .inl (List.forall_mem_cons.2 ⟨hfit, hall⟩)
      · exact .inr ⟨v :: before, u, after, text, rfl, List.forall_mem_cons.2 ⟨hfit, hfits⟩, hmisfit⟩
    · simp only [Variable.Fits, not_forall] at hfit
      obtain ⟨text, hset, hmisfit⟩ := hfit
      exact .inr ⟨[], v, vs, text, rfl, by simp, hset, hmisfit⟩

end misfit

end Override

namespace Loader

open Override

variable {env : Environment}

/-- Where all variables fit, they have all taken effect, and nothing is reported. -/
theorem withDefaults_of_fits (h : ∀ v ∈ Variable.all, v.Fits env) :
    ∃ r, Yields env (·.Fits env) r ∧ withDefaults env = (⟨none, r⟩, []) := by
  obtain ⟨r, hr⟩ := exists_resolved h .default
  refine ⟨r, ?_, by rw [withDefaults, overridden_of_resolved hr]; rfl⟩
  exact yields_of_resolved (fun v hv text => (and_iff_right (h v hv)).symm) hr

/-- At the first variable that does not fit the others are left, and it is reported. -/
theorem withDefaults_of_misfit {before after : List Variable} {v : Variable} {text : String}
    (hall : Variable.all = before ++ v :: after) (hfits : ∀ u ∈ before, u.Fits env)
    (hset : env.Sets v.name text) (hmisfit : ¬ v.Parses (Text.trim text.toList)) :
    ∃ r, Yields env (· ∈ before) r ∧
      withDefaults env = (⟨none, r⟩, [ignoredEvent (.environment v.name text v.expected)]) := by
  have hdisjoint : before.Disjoint (v :: after) :=
    List.disjoint_of_nodup_append (hall ▸ nodup_names.of_map)
  obtain ⟨limited, hlimits⟩ := exists_limits env (· ∈ before)
  have hlimited : ∀ u ∈ Variable.all, ∀ text, limited.text? u.name = some text ↔
      u ∈ before ∧ env.text? u.name = some text := by
    simp only [Environment.text?_eq_some_iff]
    exact hlimits
  obtain ⟨r, hr⟩ := exists_resolved (fits_of_limits hlimits fun u _ => hfits u) .default
  refine ⟨r, yields_of_resolved hlimits hr, ?_⟩
  have hbefore : ∀ u ∈ before, limited.text? u.name = env.text? u.name := fun u hu =>
    Option.ext fun text => by simpa [hu] using hlimited u (hall ▸ List.mem_append_left _ hu) text
  have hafter : ∀ u ∈ v :: after, limited.text? u.name = none := fun u hu =>
    Option.eq_none_iff_forall_ne_some.2 fun text htext =>
      hdisjoint ((hlimited u (hall ▸ List.mem_append_right _ hu) text).1 htext).1 hu
  have hconfig := config_runAll_of_misfit (hall ▸ all_serve) hfits hset hmisfit hbefore hafter .default
  have hfailure : (Config.default.overridden env).failure = _ :=
    runAll_of_misfit (hall ▸ all_serve) hfits hset hmisfit .default
  have hmade : (Config.default.overridden env).config = r :=
    hconfig.trans (congrArg Overridden.config (overridden_of_resolved hr))
  rw [withDefaults, hfailure, hmade]
  rfl

/-- One configuration is the default in which each variable that fits has taken effect. It is what comes of an
environment in which all of them fit. Otherwise the first one that does not is reported, only those before it
have taken effect, and that comes to the same exactly if no later one that fits would by itself make a
difference. -/
theorem withDefaults_up_to_misfit (env : Environment) :
    ∃ s, (∀ s', Yields env (·.Fits env) s' ↔ s' = s) ∧
      ((∀ v ∈ Variable.all, v.Fits env) ∧ withDefaults env = (⟨none, s⟩, []) ∨
        ∃ before v after text r, Variable.all = before ++ v :: after ∧ (∀ u ∈ before, u.Fits env) ∧
          env.Sets v.name text ∧ ¬ v.Parses (Text.trim text.toList) ∧
          (∀ r', Yields env (· ∈ before) r' ↔ r' = r) ∧
          withDefaults env = (⟨none, r⟩, [ignoredEvent (.environment v.name text v.expected)]) ∧
          (r = s ↔ ∀ u ∈ after, u.Fits env → Yields env (· = u) .default)) := by
  have hone : ∀ {counts : Variable → Prop} {r : Config}, Yields env counts r →
      ∀ r', Yields env counts r' ↔ r' = r := fun hr r' => ⟨fun hr' => hr'.unique hr, fun heq => heq ▸ hr⟩
  obtain ⟨s, hs⟩ : ∃ s, Yields env (·.Fits env) s := exists_yields fun _ _ => id
  refine ⟨s, hone hs, ?_⟩
  rcases fits_or_exists_misfit env Variable.all with hall | ⟨before, v, after, text, hall, hfits, hset, hmisfit⟩
  · obtain ⟨r, hr, hresult⟩ := withDefaults_of_fits hall
    exact .inl ⟨hall, hr.unique hs ▸ hresult⟩
  · obtain ⟨r, hr, hresult⟩ := withDefaults_of_misfit hall hfits hset hmisfit
    refine .inr ⟨before, v, after, text, r, hall, hfits, hset, hmisfit, hone hr, hresult, ?_⟩
    have hdisjoint : before.Disjoint (v :: after) := List.disjoint_of_nodup_append (hall ▸ nodup_names.of_map)
    rw [hr.eq_iff hs fun u _ => hfits u, hall]
    constructor
    · intro h u hu hfit
      have hlater := List.mem_cons_of_mem v hu
      exact h u (List.mem_append_right _ hlater) hfit fun hbefore => hdisjoint hbefore hlater
    · intro h u hu hfit hnot
      rcases List.mem_cons.1 ((List.mem_append.1 hu).resolve_left hnot) with rfl | hafter
      · exact absurd (hfit text hset) hmisfit
      · exact h u hafter hfit

/-- An environment with a capacity that is no number, and with a baud rate. -/
def spoiled : Environment := [
  worded "LOOP_SERIAL_CHANNEL_CAPACITY" "abc",
  worded "LOOP_SERIAL_CHANNEL_BAUD_RATE" "57600"]

/-- A variable that parses may have no effect, since another one does not parse. -/
theorem not_each_skipped :
    ¬ ∀ env, ∃ r, Yields env (·.Fits env) r ∧ (withDefaults env).1 = ⟨none, r⟩ := by
  intro hall
  obtain ⟨r, hr, hresult⟩ := hall spoiled
  have hrate : r.channel.baudRate = 9600 := by
    have hmade : (withDefaults spoiled).1.config.channel.baudRate = 9600 := by decide +kernel
    rwa [hresult] at hmade
  have hset : spoiled.Sets "LOOP_SERIAL_CHANNEL_BAUD_RATE" "57600" := by decide +kernel
  have hfits : Variable.Fits ⟨"LOOP_SERIAL_CHANNEL_BAUD_RATE", "baud rate", Takes Number32⟩ spoiled := by
    intro text htext
    obtain rfl := hset.unique htext
    exact ⟨57600, readUInt32?_iff.1 (by decide +kernel)⟩
  have hmakes := hr.effect ⟨UInt32, "LOOP_SERIAL_CHANNEL_BAUD_RATE", "baud rate", Number32,
    fun c => c.channel.baudRate⟩ (by simp [Field.all]) hfits
  have hvalue : Number32 (Text.trim "57600".toList) r.channel.baudRate := hmakes.value_of_sets hset
  rw [hrate, ← readUInt32?_iff] at hvalue
  exact absurd hvalue (by decide +kernel)

end Loader

end Loopback
