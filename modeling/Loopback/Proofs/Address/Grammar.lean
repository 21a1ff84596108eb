import Loopback.Failure.Port
import Loopback.Proofs.Address.Asking
import Mathlib.Data.List.Forall2

/-!
# The grammar of addresses

What an address spells is told here without a reader: where its marks stand, and what each piece of its
query says. Every text spells exactly one scheme and one list of options. Decoding it succeeds if and only
if the scheme is the right one and every option is well formed; otherwise the fault is that of the scheme,
or of the first option that is not.
-/

namespace Loopback

namespace Text

/-- A text, the part of it before the first mark, and the part after that mark if there is one. -/
structure Cuts (mark : Char) (text before : List Char) (after : Option (List Char)) : Prop where
  whole : text = before ++ after.elim [] (mark :: ·)
  first : mark ∉ before

/-- A text and what stands between its marks. -/
structure Divides (mark : Char) (text : List Char) (parts : List (List Char)) : Prop where
  joined : [mark].intercalate parts = text
  some : parts ≠ []
  free : ∀ part ∈ parts, mark ∉ part

variable {mark : Char} {text before : List Char} {after : Option (List Char)} {parts : List (List Char)}

/-- There is one way to cut a text at its first mark. -/
theorem cuts_iff : Cuts mark text before after ↔ cut mark text = (before, after) := by
  constructor
  · rintro ⟨rfl, hfirst⟩
    cases after with
    | none => simpa using cut_of_notMem hfirst
    | some rest => exact cut_append hfirst rest
  · intro hcut
    by_cases hmem : mark ∈ text
    · obtain ⟨start, rest, rfl, hstart⟩ := List.eq_append_cons_of_mem hmem
      rw [cut_append hstart] at hcut
      cases hcut
      exact ⟨rfl, hstart⟩
    · rw [cut_of_notMem hmem] at hcut
      cases hcut
      exact ⟨by simp, hmem⟩

/-- A mark ends a piece. -/
theorem pieces_append {part : List Char} (h : mark ∉ part) (rest : List Char) :
    pieces mark (part ++ mark :: rest) = part :: pieces mark rest := by
  induction part with
  | nil => simp [pieces]
  | cons c part ih =>
    rw [List.mem_cons, not_or] at h
    simp [pieces, Ne.symm h.1, ih h.2]

/-- A text is divided at the marks in one way only, which gives its pieces. -/
theorem pieces_of_divides (h : Divides mark text parts) : pieces mark text = parts := by
  obtain ⟨rfl, hsome, hfree⟩ := h
  induction parts with
  | nil => exact absurd rfl hsome
  | cons part rest ih =>
    have hpart : mark ∉ part := hfree part (by simp)
    cases rest with
    | nil => simpa using pieces_of_notMem hpart
    | cons next rest =>
      have hrest := ih (by simp) fun other hother => hfree other (by simp [hother])
      rw [List.intercalate_cons_cons, List.append_assoc, List.singleton_append, pieces_append hpart, hrest]

/-- The pieces of a text divide it. -/
theorem divides_pieces (mark : Char) (text : List Char) : Divides mark text (pieces mark text) := by
  by_cases hmem : mark ∈ text
  · obtain ⟨part, rest, rfl, hpart⟩ := List.eq_append_cons_of_mem hmem
    have hrest := divides_pieces mark rest
    rw [pieces_append hpart]
    refine ⟨?_, by simp, by simpa using ⟨hpart, hrest.free⟩⟩
    obtain ⟨next, others, hothers⟩ := List.exists_cons_of_ne_nil hrest.some
    rw [hothers, List.intercalate_cons_cons, ← hothers, hrest.joined]
    simp
  · rw [pieces_of_notMem hmem]
    exact ⟨by simp, by simp, by simpa using hmem⟩
termination_by text.length
decreasing_by
  subst_vars
  simp only [List.length_append, List.length_cons]
  omega

/-- There is one way to divide a text at its marks. -/
theorem divides_iff : Divides mark text parts ↔ pieces mark text = parts :=
  ⟨pieces_of_divides, fun h => h ▸ divides_pieces mark text⟩

end Text

namespace Address

/-- An option as it is spelled: a name and a value. -/
abbrev Spelling := String × String

/-- What a piece of a query spells: up to its first `=` a name, and after that a value, both escaped. -/
def SpellsOption (piece : List Char) (option : Spelling) : Prop :=
  ∃ name value, Text.Cuts '=' piece name value ∧
    option = (String.ofList (Text.Percent.decode name), String.ofList (Text.Percent.decode (value.getD [])))

/-- What an address spells. The scheme is what stands before the first colon, if there is one. Of the rest,
what follows the first `#` does not count; the query follows the first `?`; and between the `&` in it stand
the options, where anything stands there. -/
inductive Spells (text : List Char) : String → List Spelling → Prop where
  | intro {before start path : List Char} {after fragment query : Option (List Char)}
      {parts : List (List Char)} {options : List Spelling}
      (colon : Text.Cuts ':' text before after)
      (hash : Text.Cuts '#' (after.getD text) start fragment)
      (question : Text.Cuts '?' start path query)
      (ampersands : Text.Divides '&' (query.getD []) parts)
      (equalsSigns : List.Forall₂ SpellsOption (parts.filter (· ≠ [])) options) :
      Spells text (if after = none then "" else String.ofList before) options

/-- The scheme of a loopback, in any case. -/
def RightScheme (scheme : String) : Prop := Text.sameLetters scheme.toList "loop".toList = true

/-- The values that the option `logging` takes. -/
def levelNames : List String := ["debug", "info", "warning", "error"]

/-- An option that is known, with a value that it takes. -/
def WellFormed (option : Spelling) : Prop := option.1 = "logging" ∧ option.2 ∈ levelNames

/-- What is said of an option that is not well formed: first that its name is not known. -/
def complaint (option : Spelling) : String :=
  if option.1 = "logging" then "unknown log level: " ++ Text.quoted option.2
  else "unknown option: " ++ Text.quoted option.1

/-- What decoding an address comes to, by the scheme and the options that it spells. -/
structure Judged (scheme : String) (options : List Spelling) (result : Except PortFailure Address) :
    Prop where
  accepted_iff : (∃ address, result = .ok address) ↔
    RightScheme scheme ∧ ∀ option ∈ options, WellFormed option
  bare : ∀ address, result = .ok address → options = [] → address.options = [] ∧ address.logging = none
  asking : ∀ address first rest, result = .ok address → options = first :: rest →
    ∃ level : Severity, level.name = first.2 ∧ address.options = [.logging level] ∧
      address.logging = some level
  wrongScheme : ¬ RightScheme scheme →
    result = .error (.addressFormat ("not starting with loop:// (" ++ Text.quoted scheme ++ ")"))
  wrongOption : RightScheme scheme → ∀ before option after,
    options = before ++ option :: after → (∀ other ∈ before, WellFormed other) → ¬ WellFormed option →
      result = .error (.addressFormat (complaint option))

/-- A piece spells the option that it is read as, and no other. -/
theorem spellsOption_iff {piece : List Char} {option : Spelling} :
    SpellsOption piece option ↔ nameAndValue piece = option := by
  constructor
  · rintro ⟨name, value, hcuts, rfl⟩
    simp [nameAndValue, Text.cuts_iff.1 hcuts]
  · rintro rfl
    exact ⟨_, _, Text.cuts_iff.2 rfl, rfl⟩

/-- Pieces spell the options that they are read as, one by one. -/
theorem forall₂_spellsOption {parts : List (List Char)} {options : List Spelling} :
    List.Forall₂ SpellsOption parts options ↔ parts.map nameAndValue = options := by
  induction parts generalizing options with
  | nil => simp [eq_comm]
  | cons piece parts ih =>
    cases options with
    | nil => simp
    | cons option options => simp [spellsOption_iff, ih]

/-- Of what follows the scheme, the pieces of the query count. -/
theorem pieces_of_marks {rest start path : List Char} {fragment query : Option (List Char)}
    {parts : List (List Char)} (hash : Text.Cuts '#' rest start fragment)
    (question : Text.Cuts '?' start path query) (ampersands : Text.Divides '&' (query.getD []) parts) :
    queryPieces (Address.query rest) = parts.filter (· ≠ []) := by
  simp only [Address.query, Text.cuts_iff.1 hash, Text.cuts_iff.1 question, queryPieces,
    Text.divides_iff.1 ampersands]

/-- What an address is split into at its first colon. -/
theorem split_of_cuts {text before : List Char} {after : Option (List Char)}
    (colon : Text.Cuts ':' text before after) :
    split text = (if after = none then [] else before, after.getD text) := by
  rw [split, Text.cuts_iff.1 colon]
  cases after with
  | none => simpa using colon.whole.symm
  | some rest => rfl

/-- Every address spells one scheme and one list of options. -/
theorem spells_iff {text scheme : String} {options : List Spelling} :
    Spells text.toList scheme options ↔
      scheme = String.ofList (split text.toList).1 ∧ options = (piecesOf text).map nameAndValue := by
  constructor
  · intro h
    cases h with
    | intro colon hash question ampersands equalsSigns =>
      rw [← forall₂_spellsOption.1 equalsSigns, ← pieces_of_marks hash question ampersands, piecesOf,
        split_of_cuts colon]
      exact ⟨by split <;> rfl, rfl⟩
  · rintro ⟨rfl, rfl⟩
    have colon : Text.Cuts ':' text.toList _ _ := Text.cuts_iff.2 rfl
    have hspells := Spells.intro colon (Text.cuts_iff.2 rfl) (Text.cuts_iff.2 rfl) (Text.divides_pieces '&' _)
      (forall₂_spellsOption.2 rfl)
    rw [piecesOf, split_of_cuts colon]
    convert hspells using 1
    split <;> rfl
    rfl

/-- The names of the levels are the values that the option takes. -/
theorem mem_levelNames {value : String} : value ∈ levelNames ↔ ∃ level : Severity, level.name = value := by
  constructor
  · intro h
    simp only [levelNames, List.mem_cons, List.not_mem_nil, or_false] at h
    rcases h with rfl | rfl | rfl | rfl
    exacts [⟨.debug, rfl⟩, ⟨.info, rfl⟩, ⟨.warning, rfl⟩, ⟨.error, rfl⟩]
  · rintro ⟨level, rfl⟩
    cases level <;> decide

/-- A well-formed option is read as the level that it names. -/
theorem readOption_of_wellFormed {piece : List Char} (h : WellFormed (nameAndValue piece)) :
    ∃ level : Severity, level.name = (nameAndValue piece).2 ∧ readOption piece = .ok (.logging level) := by
  obtain ⟨level, hlevel⟩ := mem_levelNames.1 h.2
  exact ⟨level, hlevel, readOption_logging (Prod.ext h.1 hlevel.symm)⟩

/-- An option that is not well formed has the fault that is complained of. -/
theorem readOption_of_not_wellFormed {piece : List Char} (h : ¬ WellFormed (nameAndValue piece)) :
    ∃ fault, readOption piece = .error fault ∧ fault.message = complaint (nameAndValue piece) := by
  by_cases hname : (nameAndValue piece).1 = "logging"
  · have hvalue : Severity.ofName? (nameAndValue piece).2 = none := by
      by_contra hsome
      obtain ⟨level, hlevel⟩ := Option.ne_none_iff_exists'.1 hsome
      exact h ⟨hname, mem_levelNames.2 ⟨level, Severity.name_of_ofName? hlevel⟩⟩
    refine ⟨.unknownLevel (nameAndValue piece).2, ?_, ?_⟩
    · simp [readOption, knownOptions, hname, hvalue]
    · rw [complaint, if_pos hname]
      rfl
  · refine ⟨_, readOption_of_ne hname, ?_⟩
    rw [complaint, if_neg hname]
    rfl

/-- Options that are all well formed are read as the levels that they name. -/
theorem readOptions_of_wellFormed {pieces : List (List Char)}
    (h : ∀ piece ∈ pieces, WellFormed (nameAndValue piece)) :
    ∃ levels : List Severity, readOptions pieces = .ok (levels.map .logging) ∧
      levels.map (·.name) = pieces.map fun piece => (nameAndValue piece).2 := by
  induction pieces with
  | nil => exact ⟨[], rfl, rfl⟩
  | cons piece rest ih =>
    obtain ⟨level, hname, hread⟩ := readOption_of_wellFormed (h piece (by simp))
    obtain ⟨levels, hrest, hnames⟩ := ih fun other hother => h other (by simp [hother])
    exact ⟨level :: levels, by simp [readOptions, hread, hrest], by simp [hname, hnames]⟩

/-- The first option that is not well formed decides what is wrong. -/
theorem readOptions_of_not_wellFormed {before after : List (List Char)} {piece : List Char}
    (hbefore : ∀ other ∈ before, WellFormed (nameAndValue other))
    (hpiece : ¬ WellFormed (nameAndValue piece)) :
    ∃ fault, readOptions (before ++ piece :: after) = .error fault ∧
      fault.message = complaint (nameAndValue piece) := by
  induction before with
  | nil =>
    obtain ⟨fault, hread, hmessage⟩ := readOption_of_not_wellFormed hpiece
    exact ⟨fault, by simp [readOptions, hread], hmessage⟩
  | cons first before ih =>
    obtain ⟨level, -, hfirst⟩ := readOption_of_wellFormed (hbefore first (by simp))
    obtain ⟨fault, hrest, hmessage⟩ := ih fun other hother => hbefore other (by simp [hother])
    exact ⟨fault, by simp [readOptions, hfirst, hrest], hmessage⟩

/-- Where every option is `logging`, the first one is kept. -/
theorem firstOfEach_logging (level : Severity) (levels : List Severity) :
    firstOfEach ((level :: levels).map .logging) = [.logging level] := by
  have hkept : ∀ levels : List Severity, (levels.map AddressOption.logging).foldl
      (fun kept option => if kept.any (·.name == option.name) then kept else kept ++ [option])
      [.logging level] = [.logging level] := by
    intro levels
    induction levels with
    | nil => rfl
    | cons next levels ih => simpa [AddressOption.name] using ih
  simpa [firstOfEach] using hkept levels

/-- Options of which one is not well formed have a first such one. -/
theorem exists_first_not_wellFormed {options : List Spelling} (h : ¬ ∀ option ∈ options, WellFormed option) :
    ∃ before option after, options = before ++ option :: after ∧ (∀ other ∈ before, WellFormed other) ∧
      ¬ WellFormed option := by
  induction options with
  | nil => simp at h
  | cons first rest ih =>
    by_cases hfirst : WellFormed first
    · have hrest : ¬ ∀ option ∈ rest, WellFormed option := by simpa [hfirst] using h
      obtain ⟨before, option, after, rfl, hbefore, hoption⟩ := ih hrest
      exact ⟨first :: before, option, after, rfl, by simpa [hfirst] using hbefore, hoption⟩
    · exact ⟨[], first, rest, rfl, by simp, hfirst⟩

/-- Decoding an address, with the failure that a port reports. -/
def decoded (text : String) : Except PortFailure Address := (parse text).mapError .ofAddress

/-- A text with another scheme is not decoded. -/
theorem decoded_of_wrongScheme {text : String}
    (h : Text.sameLetters (split text.toList).1 scheme.toList = false) :
    decoded text = .error (.addressFormat
      ("not starting with loop:// (" ++ Text.quoted (String.ofList (split text.toList).1) ++ ")")) := by
  simp only [decoded, parse, h, Bool.false_eq_true, if_false]
  rfl

/-- A text with an option that is not well formed is not decoded, and the first such option is told. -/
theorem decoded_of_not_wellFormed {text : String} {before after : List Spelling} {option : Spelling}
    (hscheme : Text.sameLetters (split text.toList).1 scheme.toList = true)
    (hoptions : (piecesOf text).map nameAndValue = before ++ option :: after)
    (hbefore : ∀ other ∈ before, WellFormed other) (hoption : ¬ WellFormed option) :
    decoded text = .error (.addressFormat (complaint option)) := by
  obtain ⟨earlier, others, hpieces, rfl, hothers⟩ := List.map_eq_append_iff.1 hoptions
  obtain ⟨piece, later, rfl, rfl, rfl⟩ := List.map_eq_cons_iff.1 hothers
  have hearlier : ∀ other ∈ earlier, WellFormed (nameAndValue other) :=
    fun other hother => hbefore _ (List.mem_map_of_mem hother)
  obtain ⟨fault, hread, hmessage⟩ : ∃ fault, readOptions (earlier ++ piece :: later) = .error fault ∧ _ :=
    readOptions_of_not_wellFormed hearlier hoption
  rw [piecesOf] at hpieces
  simp only [decoded, parse, hscheme, if_true, hpieces, hread]
  exact congrArg (fun message => Except.error (PortFailure.addressFormat message)) hmessage

/-- A text whose options are all well formed is decoded to the first of each kind. -/
theorem decoded_of_wellFormed {text : String}
    (hscheme : Text.sameLetters (split text.toList).1 scheme.toList = true)
    (hoptions : ∀ option ∈ (piecesOf text).map nameAndValue, WellFormed option) :
    ∃ levels : List Severity, decoded text = .ok ⟨firstOfEach (levels.map .logging)⟩ ∧
      levels.map (·.name) = ((piecesOf text).map nameAndValue).map (·.2) := by
  obtain ⟨levels, hread, hnames⟩ : ∃ levels : List Severity, readOptions (piecesOf text) = _ ∧ _ :=
    readOptions_of_wellFormed fun piece hpiece => hoptions _ (List.mem_map_of_mem hpiece)
  rw [piecesOf] at hread
  refine ⟨levels, ?_, by simpa [Function.comp_def] using hnames⟩
  simp only [decoded, parse, hscheme, if_true, hread]
  rfl

variable {scheme : String} {options : List Spelling} {result : Except PortFailure Address}

/-- Under the right scheme, well-formed options are accepted. -/
theorem judged_of_wellFormed {levels : List Severity}
    (hscheme : RightScheme scheme) (hoptions : ∀ option ∈ options, WellFormed option)
    (hresult : result = .ok ⟨firstOfEach (levels.map .logging)⟩)
    (hnames : levels.map (·.name) = options.map (·.2)) : Judged scheme options result where
  accepted_iff := iff_of_true ⟨_, hresult⟩ ⟨hscheme, hoptions⟩
  bare address haddress hnone := by
    obtain rfl : levels = [] := by simpa [hnone] using hnames
    cases hresult.symm.trans haddress
    exact ⟨rfl, rfl⟩
  asking address first rest haddress hsome := by
    cases levels with
    | nil => simp [hsome] at hnames
    | cons level levels =>
      have hlevel : level.name = first.2 := by
        simp only [hsome, List.map_cons, List.cons.injEq] at hnames
        exact hnames.1
      cases hresult.symm.trans haddress
      refine ⟨level, hlevel, firstOfEach_logging level levels, ?_⟩
      rw [logging, firstOfEach_logging]
      rfl
  wrongScheme hwrong := absurd hscheme hwrong
  wrongOption _ before option after hsplit _ hoption :=
    absurd (hoptions option (by simp [hsplit])) hoption

/-- Under the right scheme, the first option that is not well formed is told. -/
theorem judged_of_not_wellFormed (hscheme : RightScheme scheme)
    (hoptions : ¬ ∀ option ∈ options, WellFormed option)
    (hresult : ∀ before option after, options = before ++ option :: after →
      (∀ other ∈ before, WellFormed other) → ¬ WellFormed option →
        result = .error (.addressFormat (complaint option))) : Judged scheme options result := by
  obtain ⟨before, option, after, hsplit, hbefore, hoption⟩ := exists_first_not_wellFormed hoptions
  have hfailed := hresult before option after hsplit hbefore hoption
  exact {
    accepted_iff := iff_of_false (by simp [hfailed]) fun h => hoptions h.2
    bare := by simp [hfailed]
    asking := by simp [hfailed]
    wrongScheme := fun hwrong => absurd hscheme hwrong
    wrongOption := fun _ => hresult }

/-- A wrong scheme is told, whatever the options are. -/
theorem judged_of_wrongScheme (hscheme : ¬ RightScheme scheme)
    (hresult : result =
      .error (.addressFormat ("not starting with loop:// (" ++ Text.quoted scheme ++ ")"))) :
    Judged scheme options result where
  accepted_iff := iff_of_false (by simp [hresult]) fun h => hscheme h.1
  bare := by simp [hresult]
  asking := by simp [hresult]
  wrongScheme _ := hresult
  wrongOption hright := absurd hright hscheme

/-- Decoding an address comes to what its scheme and its options call for. -/
theorem judged_decoded (text : String) :
    Judged (String.ofList (split text.toList).1) ((piecesOf text).map nameAndValue) (decoded text) := by
  have hright : RightScheme (String.ofList (split text.toList).1) ↔
      Text.sameLetters (split text.toList).1 Address.scheme.toList = true := by
    rw [RightScheme, String.toList_ofList]
    rfl
  cases hscheme : Text.sameLetters (split text.toList).1 Address.scheme.toList with
  | false => exact judged_of_wrongScheme (by simp [hright, hscheme]) (decoded_of_wrongScheme hscheme)
  | true =>
    by_cases hoptions : ∀ option ∈ (piecesOf text).map nameAndValue, WellFormed option
    · obtain ⟨levels, hresult, hnames⟩ := decoded_of_wellFormed hscheme hoptions
      exact judged_of_wellFormed (hright.2 hscheme) hoptions hresult hnames
    · apply judged_of_not_wellFormed (hright.2 hscheme) hoptions
      intro before option after hsplit hbefore hoption
      exact decoded_of_not_wellFormed hscheme hsplit hbefore hoption

/-- Every address spells one scheme and one list of options, and these decide what decoding it comes to. -/
theorem decoded_by_spelling (text : String) :
    ∃ scheme options, (∀ scheme' options', Spells text.toList scheme' options' ↔
      scheme' = scheme ∧ options' = options) ∧ Judged scheme options ((parse text).mapError .ofAddress) :=
  ⟨_, _, fun _ _ => spells_iff, judged_decoded text⟩

end Address

end Loopback
