import Loopback.CommandLine.Arguments
import Loopback.Proofs.Text.Numeral
import Loopback.Proofs.Text.Utf8

/-!
# Calls put into words

Whatever a call can say, some words say it: each flag with its value in one word, and the message after a
word of two dashes, since it may itself begin with a dash. Reading these words gives the call back, so there
is no choice of flags, values and message that cannot be made.
-/

namespace Loopback.CommandLine

namespace Flag

/-- A flag and its value in one word. -/
def joined (flag : Flag) (value : String) : String :=
  String.ofList ('-' :: '-' :: ((Named.name flag).toList ++ '=' :: value.toList))

/-- The word for a flag with its value, if it is given. -/
def said {α : Type} (flag : Flag) (shown : α → String) (value? : Option α) : List String :=
  (value?.map fun value => flag.joined (shown value)).toList

/-- The name of a flag holds no equals sign. -/
theorem equals_notMem_name (flag : Flag) : '=' ∉ (Named.name flag).toList := by
  cases flag <;> decide

/-- A flag is found by its name. -/
theorem find?_name (flag : Flag) : Named.find? (Named.name flag) = some flag := by
  cases flag <;> decide

end Flag

section values

/-- Digits without a sign are read as a signed number like any number. -/
theorem readInteger_of_digits {bound n : Nat} {digits : List Char} (hsome : digits ≠ [])
    (hdigits : ∀ c ∈ digits, c.isDigit = true) (hvalue : Nat.ofDigitChars 10 digits 0 = n) (hn : n ≤ bound) :
    Text.readInteger bound digits = .ok n := by
  have hread : Text.readDigits bound .tooLarge 0 digits = .ok n :=
    (Text.readDigits_eq_ok_iff (Nat.zero_le bound)).2 ⟨hdigits, hvalue, hn⟩
  have hsign (sign : Char) (hno : sign.isDigit = false) (rest : List Char) : digits ≠ sign :: rest := by
    rintro rfl
    rw [hdigits sign List.mem_cons_self] at hno
    cases hno
  unfold Text.readInteger
  split
  · exact absurd rfl hsome
  · exact absurd rfl (hsign '+' rfl _)
  · exact absurd rfl (hsign '-' rfl _)
  · exact absurd rfl (hsign '+' rfl _)
  · exact absurd rfl (hsign '-' rfl _)
  · rw [hread]
    rfl

/-- A baud rate is read back from its decimal digits. -/
theorem readBaud_decimal (rate : UInt32) : readBaud (Text.decimal rate.toNat) = .ok rate := by
  have hbound : rate.toNat ≤ Text.max32 := Nat.le_of_lt_succ rate.toNat_lt
  have hread : Text.readInteger Text.maxSigned64 (Text.decimal rate.toNat).toList = .ok rate.toNat := by
    rw [Text.decimal, String.toList_ofList]
    exact readInteger_of_digits Nat.toDigits_ne_nil
      (fun _ => Nat.isDigit_of_mem_toDigits (by decide) (by decide))
      (Nat.ofDigitChars_toDigits (by decide) (by decide)) (Nat.le_trans hbound (by decide))
  have hwithin : (0 : Int) ≤ rate.toNat ∧ (rate.toNat : Int) ≤ Text.max32 := by omega
  simp [readBaud, hread, hwithin]

/-- A number of milliseconds is read back from its decimal digits. -/
theorem readMillis_decimal (millis : UInt64) : readMillis (Text.decimal millis.toNat) = .ok millis := by
  have hread : Text.readNatural Text.max64 (Text.decimal millis.toNat).toList = .ok millis.toNat := by
    rw [Text.decimal, String.toList_ofList, Text.readNatural_eq_ok_iff]
    exact ⟨_, Nat.toDigits_ne_nil, fun _ => Nat.isDigit_of_mem_toDigits (by decide) (by decide), .inl rfl,
      Nat.ofDigitChars_toDigits (by decide) (by decide), Nat.le_of_lt_succ millis.toNat_lt⟩
  simp [readMillis, hread]

end values

namespace Progress

/-- Between words that are complete in themselves nothing is pending. -/
def between (a : Arguments) : Progress := ⟨a, none, false⟩

/-- Words take one call on to another, with nothing pending before and after. -/
def Reads (words : List String) (a a' : Arguments) : Prop :=
  words.foldlM readWord (between a) = .ok (between a')

variable {a a' a'' : Arguments} {flag : Flag} {value : String}

/-- Words and further words are read one after the other. -/
theorem Reads.append {words words' : List String} (h : Reads words a a') (h' : Reads words' a' a'') :
    Reads (words ++ words') a a'' := by
  rw [Reads, List.foldlM_append, h]
  exact h'

/-- A flag joined to its value, and not given before, is taken with that value. -/
theorem readWord_joined (htakes : flag.takesValue = true) (hnew : a.has flag = false)
    (hassign : a.assign flag value = .ok a') :
    (between a).readWord (flag.joined value) = .ok (between a') := by
  obtain ⟨c, rest, hname⟩ : ∃ c rest, (Named.name flag).toList ++ '=' :: value.toList = c :: rest :=
    List.exists_cons_of_ne_nil (by simp)
  have hcut : Text.cut '=' (c :: rest) = ((Named.name flag).toList, some value.toList) := by
    rw [← hname]
    exact Text.cut_append flag.equals_notMem_name _
  have htaken : (between a).accept flag value.toList = .ok (between a') := by
    change (between a).goOn <$> a.accept flag (String.ofList value.toList) = _
    rw [String.ofList_toList, Arguments.accept, hnew, if_neg Bool.false_ne_true, hassign]
    rfl
  rw [readWord, Flag.joined, String.toList_ofList, hname]
  simp only [between, hcut, Bool.false_eq_true, if_false, readName, String.ofList_toList, flag.find?_name,
    htakes, if_true]
  exact htaken

/-- A flag that is given or not puts its value into a field or leaves the field empty. -/
theorem reads_said {α : Type} {shown : α → String} (put : Option α → Arguments) {value? : Option α}
    (htakes : flag.takesValue = true) (hnew : (put none).has flag = false)
    (hassign : ∀ value, value? = some value → (put none).assign flag (shown value) = .ok (put (some value))) :
    Reads (flag.said shown value?) (put none) (put value?) := by
  cases value? with
  | none => rfl
  | some value =>
    have hword := readWord_joined htakes hnew (hassign value rfl)
    simp [Reads, Flag.said, hword]

/-- The flag for objects, which takes no value, is read as itself. -/
theorem reads_json (json : Bool) (h : a.json = false) :
    Reads (if json then ["--json"] else []) a { a with json } := by
  obtain ⟨_, _, _, _, _, _, _, _⟩ := a
  cases h
  cases json <;> rfl

/-- What follows two dashes at the end is the message, whatever it looks like. -/
theorem read_append_message {words : List String} (h : Reads words .none a) (hnone : a.message = none)
    (message : Option String) :
    Arguments.read (words ++ (message.map fun text => ["--", text]).getD []) = .ok { a with message } := by
  obtain ⟨_, _, _, _, _, _, _, _⟩ := a
  cases hnone
  have hstart : words.foldlM readWord start = .ok (between _) := h
  rw [Arguments.read, List.foldlM_append, hstart]
  cases message <;> rfl

end Progress

namespace Arguments

/-- The words for a call: its flags, and its message after two dashes. -/
def words (a : Arguments) : List String :=
  Flag.url.said id a.url ++
  Flag.baud.said (fun rate => Text.decimal rate.toNat) a.baud ++
  Flag.readTimeout.said (fun millis => Text.decimal millis.toNat) a.readTimeoutMillis ++
  Flag.writeTimeout.said (fun millis => Text.decimal millis.toNat) a.writeTimeoutMillis ++
  Flag.config.said Path.shown a.config ++
  Flag.logLevel.said id a.logLevel ++
  (if a.json then ["--json"] else []) ++
  (a.message.map fun text => ["--", text]).getD []

/-- The path of a call, if it has one, is some text and not empty. -/
def Sayable (a : Arguments) : Prop := ∀ path, a.config = some path → ∃ text, text ≠ "" ∧ path = .ofText text

/-- A value that can be read is put where it belongs. -/
theorem map_reading {α : Type} {flag : Flag} {value : String} {read : String → Except String α} {x : α}
    (h : read value = .ok x) (put : α → Arguments) : (reading flag value read).map put = .ok (put x) := by
  rw [reading, h]
  rfl

/-- A path that is text is assigned as it is shown. -/
theorem assign_config (a : Arguments) {path : Path} (h : ∃ text, text ≠ "" ∧ path = .ofText text) :
    a.assign .config path.shown = .ok { a with config := some path } := by
  obtain ⟨text, hsome, rfl⟩ := h
  have hshown : (Path.ofText text).shown = text := by
    rw [Path.shown, Path.ofText, Text.Utf8.decodeLossy_encode, String.ofList_toList]
  rw [hshown, assign, if_neg hsome]

/-- Every call can be put into words. -/
theorem read_words (a : Arguments) (h : a.Sayable) : read a.words = .ok a := by
  obtain ⟨message, url, baud, readTimeoutMillis, writeTimeoutMillis, config, logLevel, json⟩ := a
  let c₁ := { none with url }
  let c₂ := { c₁ with baud }
  let c₃ := { c₂ with readTimeoutMillis }
  let c₄ := { c₃ with writeTimeoutMillis }
  let c₅ := { c₄ with config }
  have hurl : Progress.Reads (Flag.url.said id url) none c₁ :=
    Progress.reads_said (fun url => { none with url }) rfl rfl fun _ _ => rfl
  have hbaud : Progress.Reads (Flag.baud.said _ baud) c₁ c₂ :=
    Progress.reads_said (fun baud => { c₁ with baud }) rfl rfl fun rate _ =>
      map_reading (readBaud_decimal rate) _
  have hread : Progress.Reads (Flag.readTimeout.said _ readTimeoutMillis) c₂ c₃ :=
    Progress.reads_said (fun readTimeoutMillis => { c₂ with readTimeoutMillis }) rfl rfl fun millis _ =>
      map_reading (readMillis_decimal millis) _
  have hwrite : Progress.Reads (Flag.writeTimeout.said _ writeTimeoutMillis) c₃ c₄ :=
    Progress.reads_said (fun writeTimeoutMillis => { c₃ with writeTimeoutMillis }) rfl rfl fun millis _ =>
      map_reading (readMillis_decimal millis) _
  have hconfig : Progress.Reads (Flag.config.said _ config) c₄ c₅ :=
    Progress.reads_said (fun config => { c₄ with config }) rfl rfl fun path hpath =>
      assign_config _ (h path hpath)
  have hlevel : Progress.Reads (Flag.logLevel.said id logLevel) c₅ { c₅ with logLevel } :=
    Progress.reads_said (fun logLevel => { c₅ with logLevel }) rfl rfl fun _ _ => rfl
  have hflags := ((((hurl.append hbaud).append hread).append hwrite).append hconfig).append hlevel
  exact Progress.read_append_message (hflags.append (Progress.reads_json json rfl)) rfl message

end Arguments

end Loopback.CommandLine
