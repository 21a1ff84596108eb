import Loopback.Address
import Mathlib.Data.List.Basic

/-!
# Addresses that ask for diagnostics

An address asks for diagnostics by one more option in its query. That changes nothing of whether it can be
decoded, nor of what is wrong with it otherwise.
-/

namespace Loopback

/-- Without a mark there is one piece. -/
theorem Text.pieces_of_notMem {mark : Char} {text : List Char} (h : mark ∉ text) :
    pieces mark text = [text] := by
  induction text with
  | nil => rfl
  | cons c rest ih =>
    obtain ⟨hc, hrest⟩ := not_or.1 (mt List.mem_cons.2 h)
    simp [pieces, Ne.symm hc, ih hrest]

namespace Address

/-- The pieces of the query of an address. -/
def piecesOf (text : String) : List (List Char) :=
  queryPieces (query (split text.toList).2)

/-- An address without the option `logging`, and the same one that has it, for a level. -/
structure Asks (text asking : String) (level : Severity) : Prop where
  scheme : (split asking.toList).1 = (split text.toList).1
  silent : ∀ piece ∈ piecesOf text, (nameAndValue piece).1 ≠ "logging"
  added : ∃ before piece after, piecesOf text = before ++ after ∧
    piecesOf asking = before ++ piece :: after ∧ nameAndValue piece = ("logging", level.name)

/-- An option under any other name is unknown. -/
theorem readOption_of_ne {piece : List Char} (h : (nameAndValue piece).1 ≠ "logging") :
    readOption piece = .error (.unknownOption (nameAndValue piece).1) :=
  if_neg (mt List.mem_singleton.1 h)

/-- An option `logging` whose value names a level is well formed. -/
theorem readOption_logging {piece : List Char} {level : Severity}
    (h : nameAndValue piece = ("logging", level.name)) : readOption piece = .ok (.logging level) := by
  simp [readOption, h, knownOptions, Severity.ofName?_name]

/-- Where nothing asks for diagnostics, one more option that does so is at most added to the others. -/
theorem readOptions_asking {before after : List (List Char)} {piece : List Char} {level : Severity}
    (hsilent : ∀ other ∈ before ++ after, (nameAndValue other).1 ≠ "logging")
    (hpiece : nameAndValue piece = ("logging", level.name)) :
    (∃ fault, readOptions (before ++ after) = .error fault ∧
      readOptions (before ++ piece :: after) = .error fault) ∨
      (readOptions (before ++ after) = .ok [] ∧
        readOptions (before ++ piece :: after) = .ok [.logging level]) := by
  cases before with
  | cons first rest =>
    have hfirst := readOption_of_ne (hsilent first (by simp))
    refine .inl ⟨.unknownOption (nameAndValue first).1, ?_, ?_⟩ <;> simp [readOptions, hfirst]
  | nil =>
    have hasks := readOption_logging hpiece
    cases after with
    | cons first rest =>
      have hfirst := readOption_of_ne (hsilent first (by simp))
      refine .inl ⟨.unknownOption (nameAndValue first).1, ?_, ?_⟩ <;> simp [readOptions, hfirst, hasks]
    | nil => exact .inr ⟨rfl, by simp [readOptions, hasks]⟩

/-- An address and the same one that asks for diagnostics have the same fault, or they have none and differ
in the level that they ask for. -/
theorem Asks.parse {text asking : String} {level : Severity} (h : Asks text asking level) :
    (∃ fault, parse text = .error fault ∧ parse asking = .error fault) ∨
      ∃ address address', parse text = .ok address ∧ parse asking = .ok address' ∧
        address.logging = none ∧ address'.logging = some level := by
  obtain ⟨before, piece, after, hpieces, hasking, hpiece⟩ := h.added
  have hsilent := h.silent
  rw [hpieces] at hsilent
  unfold piecesOf at hpieces hasking
  have hscheme := h.scheme
  by_cases hloop : Text.sameLetters (split text.toList).1 Address.scheme.toList = true
  · rcases readOptions_asking hsilent hpiece with ⟨fault, htext, hother⟩ | ⟨htext, hother⟩
    · refine .inl ⟨fault, ?_, ?_⟩
      · simp [Address.parse, hloop, hpieces, htext]
      · simp [Address.parse, hscheme, hloop, hasking, hother]
    · refine .inr ⟨⟨[]⟩, ⟨[.logging level]⟩, ?_, ?_, rfl, rfl⟩
      · simp [Address.parse, hloop, hpieces, htext, firstOfEach]
      · simp [Address.parse, hscheme, hloop, hasking, hother, firstOfEach]
  · refine .inl ⟨.wrongScheme (String.ofList (split text.toList).1), ?_, ?_⟩
    · simp [Address.parse, hloop]
    · simp [Address.parse, hscheme, hloop]

/-- What follows the last mark is not cut. -/
theorem split_append (text : List Char) {more : List Char} (hcolon : ':' ∉ more) :
    split (text ++ more) = ((split text).1, (split text).2 ++ more) := by
  by_cases hmem : ':' ∈ text
  · obtain ⟨before, after, rfl, hbefore⟩ := List.eq_append_cons_of_mem hmem
    rw [List.append_assoc, List.cons_append, split, split, Text.cut_append hbefore, Text.cut_append hbefore]
  · have hnone : ':' ∉ text ++ more := by simp [hmem, hcolon]
    rw [split, split, Text.cut_of_notMem hnone, Text.cut_of_notMem hmem]

/-- What follows the scheme is part of the address. -/
theorem split_snd_suffix (text : List Char) : (split text).2 <:+ text := by
  by_cases hmem : ':' ∈ text
  · obtain ⟨before, after, rfl, hbefore⟩ := List.eq_append_cons_of_mem hmem
    rw [split, Text.cut_append hbefore]
    exact ⟨before ++ [':'], by simp⟩
  · have hwhole : split text = ([], text) := by simp only [split, Text.cut_of_notMem hmem]
    exact hwhole ▸ List.suffix_refl text

/-- A query that is a single piece, with no fragment after it. -/
theorem queryPieces_query {rest piece : List Char} (hquery : '?' ∉ rest) (hfragment : '#' ∉ rest)
    (hplain : '#' ∉ piece) (hsingle : '&' ∉ piece) (hpiece : piece ≠ []) :
    queryPieces (query (rest ++ '?' :: piece)) = [piece] := by
  have hwhole : '#' ∉ rest ++ '?' :: piece := by simp [hfragment, hplain]
  have hpieces : query (rest ++ '?' :: piece) = piece := by
    rw [query, Text.cut_of_notMem hwhole, Text.cut_append hquery, Option.getD_some]
  rw [hpieces, queryPieces, Text.pieces_of_notMem hsingle]
  simp [hpiece]

/-- How an address without a query asks for diagnostics. -/
theorem asks_append {text : String} (hquery : '?' ∉ text.toList) (hfragment : '#' ∉ text.toList)
    (level : Severity) : Asks text (text ++ "?logging=" ++ level.name) level := by
  have hrest := (split_snd_suffix text.toList).subset
  have hno : '?' ∉ (split text.toList).2 := fun hmem => hquery (hrest hmem)
  have hno' : '#' ∉ (split text.toList).2 := fun hmem => hfragment (hrest hmem)
  have hasking : (text ++ "?logging=" ++ level.name).toList =
      text.toList ++ '?' :: ("logging=" ++ level.name).toList := by
    simp [String.toList_append]
  have hcolon : ':' ∉ '?' :: ("logging=" ++ level.name).toList := by cases level <;> decide
  have hnone : piecesOf text = [] := by
    rw [piecesOf, query, Text.cut_of_notMem hno', Text.cut_of_notMem hno]
    rfl
  have hpiece : piecesOf (text ++ "?logging=" ++ level.name) = [("logging=" ++ level.name).toList] := by
    rw [piecesOf, hasking, split_append _ hcolon]
    exact queryPieces_query hno hno' (by cases level <;> decide) (by cases level <;> decide)
      (by cases level <;> decide)
  exact {
    scheme := by rw [hasking, split_append _ hcolon]
    silent := by simp [hnone]
    added := ⟨[], _, [], hnone, hpiece, by cases level <;> decide⟩ }

end Address

end Loopback
