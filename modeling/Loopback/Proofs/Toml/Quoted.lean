import Loopback.Toml.Quoted
import Loopback.Toml.Writer
import Mathlib.Tactic.SplitIfs

/-!
# Reading back the strings that are written

Whatever style is chosen for a text, reading it gives the text back. The two readers of basic strings read
escapes alike, and the two of strings of several lines read quotes alike: three are the end, so what matters there
is that never three quotes of the text stand together, and that up to two may stand right before the end.
-/

namespace Loopback.Toml

variable {c : Char} {text rest : List Char}

/-- A reader of a basic string, as far as it reads escapes and plain characters. -/
structure ReadsEscapes (read : List Char → Option (List Char × List Char)) : Prop where
  letter : ∀ {c x} rest, escaped? c = some x → read ('\x5c' :: c :: rest) = consChar x (read rest)
  code : ∀ {a b c d x} rest, hexChar? [a, b, c, d] = some x →
    read ('\x5c' :: 'u' :: a :: b :: c :: d :: rest) = consChar x (read rest)
  plain : ∀ {c} rest, isPlainChar c = true → c ≠ '\x22' → c ≠ '\x5c' →
    read (c :: rest) = consChar c (read rest)

/-- The reader of basic strings reads escapes. -/
theorem readBasic_readsEscapes : ReadsEscapes readBasic where
  letter rest h := by
    unfold escaped? at h
    split at h <;> cases h <;> rfl
  code rest h := by
    rw [readBasic, h, consChar?]
  plain rest hplain hquote hbackslash := by
    rw [readBasic]
    · simp [hplain, hbackslash]
    all_goals simp [hquote, hbackslash]

/-- The reader of basic strings of several lines reads escapes. -/
theorem readMultiBasic_readsEscapes : ReadsEscapes (readMultiBasic .plain) where
  letter rest h := by
    unfold escaped? at h
    split at h <;> cases h <;> rfl
  code rest h := by
    rw [readMultiBasic, h, consChar?]
    all_goals simp
  plain {c} rest hplain hquote hbackslash := by
    have hbreak : c ≠ '\n' ∧ c ≠ '\r' := by
      constructor <;> rintro rfl <;> cases hplain
    rw [readMultiBasic]
    · simp [hplain, hbackslash]
    all_goals simp [hquote, hbackslash, hbreak]

/-- A reader of a string of several lines, as far as its quotes are concerned. Three end it, but one more in front of
them belongs to it, as does one that does not stand with two others. -/
structure ReadsQuotes (quote : Char) (read : List Char → Option (List Char × List Char)) : Prop where
  single : ∀ {rest}, (∀ more, rest ≠ quote :: quote :: more) → read (quote :: rest) = consChar quote (read rest)
  closing : ∀ {rest}, rest.head? ≠ some quote → read (quote :: quote :: quote :: rest) = some ([], rest)
  closing_one : ∀ {rest}, rest.head? ≠ some quote →
    read (quote :: quote :: quote :: quote :: rest) = some ([quote], rest)

/-- The reader of basic strings of several lines reads quotes. -/
theorem readMultiBasic_readsQuotes : ReadsQuotes '\x22' (readMultiBasic .plain) where
  single h := by
    rw [readMultiBasic]
    all_goals simp [h]
  closing hrest := by
    rw [readMultiBasic]
    · rintro more rfl
      exact hrest rfl
    · rintro more rfl
      exact hrest rfl
    · simp
  closing_one hrest := by
    rw [readMultiBasic]
    · rintro more rfl
      exact hrest rfl
    · simp

/-- The reader of literal strings of several lines reads quotes. -/
theorem readMultiLiteral_readsQuotes : ReadsQuotes '\x27' readMultiLiteral where
  single h := by
    rw [readMultiLiteral]
    all_goals simp [h]
  closing hrest := by
    rw [readMultiLiteral]
    all_goals
      rintro more rfl
      exact hrest rfl
  closing_one hrest := by
    rw [readMultiLiteral]
    rintro more rfl
    exact hrest rfl

/-- What needs a code is an ASCII character. -/
theorem toNat_lt_of_needsCode (h : needsCode c = true) : c.toNat < 128 := by
  simp only [needsCode, Bool.or_eq_true, Bool.and_eq_true, decide_eq_true_eq, beq_iff_eq] at h
  rcases h with ⟨⟨hlow, -⟩, -⟩ | rfl
  · exact Nat.lt_trans (Char.lt_def.1 hlow) (by decide)
  · decide

/-- What needs no code is plain, unless it ends a line. -/
theorem isPlainChar_of_needsCode (h : needsCode c = false) (hbreak : c ≠ '\n') : isPlainChar c = true := by
  simp [needsCode, hbreak] at h
  by_cases htab : c = '\t'
  · simp [isPlainChar, htab]
  · have hhigh : ' ' ≤ c := Char.not_lt.1 fun hlow => htab (h.1 hlow)
    simp [isPlainChar, h.2, hhigh]

/-- The code of a control character is read as that character. -/
theorem hexChar?_code :
    ∀ n < 128, hexChar? ['0', '0', codeDigit (n / 16), codeDigit (n % 16)] = some (Char.ofNat n) := by
  decide

/-- A character is read back from its escape. -/
theorem ReadsEscapes.read_escapedChar {read : List Char → Option (List Char × List Char)}
    (hread : ReadsEscapes read) (hquote : c ≠ '\x22') (hbreak : c ≠ '\n') :
    read (escapedChar c ++ rest) = consChar c (read rest) := by
  unfold escapedChar
  split_ifs with hb ht hf hr hbackslash hcode
  · subst hb; exact hread.letter rest rfl
  · subst ht; exact hread.letter rest rfl
  · subst hf; exact hread.letter rest rfl
  · subst hr; exact hread.letter rest rfl
  · subst hbackslash; exact hread.letter rest rfl
  · refine hread.code rest ?_
    rw [hexChar?_code _ (toNat_lt_of_needsCode hcode), Char.ofNat_toNat]
  · exact hread.plain rest (isPlainChar_of_needsCode (by simpa using hcode) hbreak) hquote hbackslash

/-- The content of a basic string on one line is read back. -/
theorem readBasic_escapeBasic (text rest : List Char) :
    readBasic (escapeBasic text ++ '\x22' :: rest) = some (text, rest) := by
  induction text with
  | nil => rfl
  | cons c text ih =>
    rw [escapeBasic]
    split_ifs with hquote hbreak
    · rw [hquote, List.cons_append, List.cons_append, readBasic_readsEscapes.letter _ rfl, ih, consChar]
    · rw [hbreak, List.cons_append, List.cons_append, readBasic_readsEscapes.letter _ rfl, ih, consChar]
    · rw [List.append_assoc, readBasic_readsEscapes.read_escapedChar hquote hbreak, ih, consChar]

/-- Plain characters other than the quote are read from a literal string as they are. -/
theorem readLiteral_append (htext : ∀ c ∈ text, isPlainChar c = true ∧ c ≠ '\x27') (rest : List Char) :
    readLiteral (text ++ '\x27' :: rest) = some (text, rest) := by
  induction text with
  | nil => rfl
  | cons c text ih =>
    obtain ⟨⟨hplain, hquote⟩, htext⟩ := List.forall_mem_cons.1 htext
    rw [List.cons_append, readLiteral, if_pos hplain, ih htext, consChar]
    exact hquote

section several

/-- An escaped character does not begin with a quote, unless it is one. -/
theorem escapedChar_eq_cons (hquote : c ≠ '\x22') : ∃ d more, escapedChar c = d :: more ∧ d ≠ '\x22' := by
  unfold escapedChar
  split_ifs <;> simp [hquote]

/-- A quote is not written as such after two others, and no other character is written as one. -/
theorem escapeMulti_eq_cons {run : Nat} (text : List Char) (h : run = 2 ∨ c ≠ '\x22') :
    ∃ d more, escapeMulti run (c :: text) = d :: more ∧ d ≠ '\x22' := by
  rw [escapeMulti]
  split_ifs with hquote hrun hbreak
  · rcases h with rfl | h
    · cases Nat.lt_irrefl 2 hrun
    · exact absurd hquote h
  · simp
  · simp
  · obtain ⟨d, more, hd, hne⟩ := escapedChar_eq_cons hquote
    exact ⟨d, more ++ escapeMulti 0 text, by rw [hd, List.cons_append], hne⟩

/-- After a quote two more are only written at the end, where they close the string. -/
theorem escapeMulti_of_quotes {run : Nat} {more : List Char} (hlow : 0 < run) (hhigh : run ≤ 2)
    (h : escapeMulti run text ++ '\x22' :: '\x22' :: '\x22' :: rest = '\x22' :: '\x22' :: more) :
    text = [] ∨ text = ['\x22'] ∧ run = 1 := by
  cases text with
  | nil => exact .inl rfl
  | cons c text =>
    by_cases hother : run = 2 ∨ c ≠ '\x22'
    · obtain ⟨d, written, hd, hne⟩ := escapeMulti_eq_cons text hother
      rw [hd] at h
      exact absurd (List.head_eq_of_cons_eq h) hne
    · obtain ⟨hrun, rfl⟩ : run = 1 ∧ c = '\x22' := ⟨by omega, by simpa using fun hc => hother (.inr hc)⟩
      subst hrun
      cases text with
      | nil => exact .inr ⟨rfl, rfl⟩
      | cons d text =>
        obtain ⟨e, written, he, hne⟩ := escapeMulti_eq_cons (c := d) text (.inl rfl)
        rw [escapeMulti, if_pos rfl, if_pos (by omega), he] at h
        exact absurd (List.head_eq_of_cons_eq (List.tail_eq_of_cons_eq h)) hne

/-- The content of a basic string of several lines is read back. -/
theorem readMultiBasic_escapeMulti {run : Nat} (hrun : run ≤ 2) (hrest : rest.head? ≠ some '\x22') :
    readMultiBasic .plain (escapeMulti run text ++ '\x22' :: '\x22' :: '\x22' :: rest) = some (text, rest) := by
  induction text generalizing run with
  | nil => exact readMultiBasic_readsQuotes.closing hrest
  | cons c text ih =>
    rw [escapeMulti]
    split_ifs with hquote hthird hbreak
    · subst hquote
      rw [List.cons_append]
      by_cases hend : ∃ more, escapeMulti (run + 1) text ++ '\x22' :: '\x22' :: '\x22' :: rest =
          '\x22' :: '\x22' :: more
      · obtain ⟨more, hend⟩ := hend
        rcases escapeMulti_of_quotes (by omega) (by omega) hend with rfl | ⟨rfl, hone⟩
        · exact readMultiBasic_readsQuotes.closing_one hrest
        · rw [hone]
          rfl
      · rw [readMultiBasic_readsQuotes.single (not_exists.1 hend), ih (by omega), consChar]
    · rw [hquote, List.cons_append, List.cons_append, readMultiBasic_readsEscapes.letter _ rfl, ih (by omega),
        consChar]
    · rw [hbreak, List.cons_append, readMultiBasic, ih (by omega), consChar]
      all_goals simp
    · rw [List.append_assoc, readMultiBasic_readsEscapes.read_escapedChar hquote hbreak, ih (by omega), consChar]

/-- In a literal string of several lines a character that needs no code stands for itself. -/
theorem readMultiLiteral_plain (hcode : needsCode c = false) (hquote : c ≠ '\x27') :
    readMultiLiteral (c :: rest) = consChar c (readMultiLiteral rest) := by
  by_cases hbreak : c = '\n'
  · rw [hbreak, readMultiLiteral]
  · have hreturn : c ≠ '\r' := by
      rintro rfl
      cases hcode
    rw [readMultiLiteral, if_pos (isPlainChar_of_needsCode hcode hbreak)]
    all_goals simp [hquote, hbreak, hreturn]

/-- The longest run is no shorter than the best one so far. -/
theorem le_longestRun (mark : Char) (run best : Nat) (text : List Char) : best ≤ longestRun mark run best text := by
  induction text generalizing run best with
  | nil => exact Nat.le_refl best
  | cons c text ih =>
    rw [longestRun]
    split_ifs
    · exact Nat.le_trans (Nat.le_max_left best (run + 1)) (ih _ _)
    · exact ih _ _

/-- A run that goes on is no longer than the longest. -/
theorem lt_longestRun (mark : Char) (run best : Nat) (text : List Char) :
    run < longestRun mark run best (mark :: text) := by
  rw [longestRun, if_pos rfl]
  exact Nat.le_trans (Nat.le_max_right best (run + 1)) (le_longestRun _ _ _ _)

/-- Where no three quotes stand together, two more after a quote only stand at the end. -/
theorem longestRun_of_quotes {run best : Nat} {more : List Char} (hlow : 0 < run)
    (hruns : longestRun '\x27' run best text ≤ 2)
    (h : text ++ '\x27' :: '\x27' :: '\x27' :: rest = '\x27' :: '\x27' :: more) : text = [] ∨ text = ['\x27'] := by
  match text with
  | [] => exact .inl rfl
  | [c] => 
    obtain rfl : c = '\x27' := List.head_eq_of_cons_eq h
    exact .inr rfl
  | c :: d :: text =>
    obtain rfl : c = '\x27' := List.head_eq_of_cons_eq h
    obtain rfl : d = '\x27' := List.head_eq_of_cons_eq (List.tail_eq_of_cons_eq h)
    rw [longestRun, if_pos rfl] at hruns
    have := lt_longestRun '\x27' (run + 1) (max best (run + 1)) text
    omega

/-- The content of a literal string of several lines is read back. -/
theorem readMultiLiteral_append {run best : Nat} (hcode : ∀ c ∈ text, needsCode c = false)
    (hruns : longestRun '\x27' run best text ≤ 2) (hrest : rest.head? ≠ some '\x27') :
    readMultiLiteral (text ++ '\x27' :: '\x27' :: '\x27' :: rest) = some (text, rest) := by
  induction text generalizing run best with
  | nil => exact readMultiLiteral_readsQuotes.closing hrest
  | cons c text ih =>
    obtain ⟨hc, hcodes⟩ := List.forall_mem_cons.1 hcode
    rw [List.cons_append]
    by_cases hquote : c = '\x27'
    · subst hquote
      rw [longestRun, if_pos rfl] at hruns
      by_cases hend : ∃ more, text ++ '\x27' :: '\x27' :: '\x27' :: rest = '\x27' :: '\x27' :: more
      · obtain ⟨more, hend⟩ := hend
        rcases longestRun_of_quotes (Nat.succ_pos run) hruns hend with rfl | rfl
        · exact readMultiLiteral_readsQuotes.closing_one hrest
        · rfl
      · rw [readMultiLiteral_readsQuotes.single (not_exists.1 hend), ih hcodes hruns, consChar]
    · rw [longestRun, if_neg hquote] at hruns
      rw [readMultiLiteral_plain hc hquote, ih hcodes hruns, consChar]

/-- Where no line end stands first, none is dropped. -/
theorem dropNewline_of_ne (hfeed : text.head? ≠ some '\n') (hreturn : text.head? ≠ some '\r') :
    dropNewline text = text := by
  unfold dropNewline newline?
  split
  · exact absurd rfl hfeed
  · exact absurd rfl hreturn
  · rfl

/-- The line end that is put after opening quotes is left out, and no other. -/
theorem dropNewline_opening {written : List Char}
    (h : '\n' ∉ text → written.head? ≠ some '\n' ∧ written.head? ≠ some '\r') :
    dropNewline (opening text ++ written) = written := by
  unfold opening
  split_ifs with hbreak
  · rfl
  · obtain ⟨hfeed, hreturn⟩ := h (by simpa using hbreak)
    exact dropNewline_of_ne hfeed hreturn

/-- A text without line ends is escaped to none at its start. -/
theorem head?_escapeMulti (hbreak : '\n' ∉ text) :
    (escapeMulti 0 text ++ '\x22' :: rest).head? ≠ some '\n' ∧
      (escapeMulti 0 text ++ '\x22' :: rest).head? ≠ some '\r' := by
  cases text with
  | nil => simp [escapeMulti]
  | cons c text =>
    have hc : c ≠ '\n' := fun hc => hbreak (hc ▸ List.mem_cons_self)
    rw [escapeMulti, if_neg hc]
    unfold escapedChar
    split_ifs <;> simp [*]

/-- A text without line ends and codes has none at its start before its closing quote. -/
theorem head?_append_quote (hcode : ∀ c ∈ text, needsCode c = false) (hbreak : '\n' ∉ text) :
    (text ++ '\x27' :: rest).head? ≠ some '\n' ∧ (text ++ '\x27' :: rest).head? ≠ some '\r' := by
  cases text with
  | nil => simp
  | cons c text =>
    have hreturn : c ≠ '\r' := by
      rintro rfl
      cases hcode _ List.mem_cons_self
    have hc : c ≠ '\n' := fun hc => hbreak (hc ▸ List.mem_cons_self)
    simp [hc, hreturn]

end several

/-- A style by which a text can be written. Anything can be written with escapes. -/
def Style.Suits : Style → List Char → Prop
  | .basic, _ => True
  | .literal, text => ∀ c ∈ text, isPlainChar c = true ∧ c ≠ '\x27'
  | .multiBasic, _ => True
  | .multiLiteral, text => (∀ c ∈ text, needsCode c = false) ∧ longestRun '\x27' 0 0 text ≤ 2

/-- A character that has no run at all does not occur. -/
theorem notMem_of_longestRun {mark : Char} {run best : Nat} (h : longestRun mark run best text = 0) :
    mark ∉ text := by
  induction text generalizing run best with
  | nil => simp
  | cons c text ih =>
    have hc : mark ≠ c := by
      rintro rfl
      have := lt_longestRun mark run best text
      omega
    rw [longestRun, if_neg hc.symm] at h
    simp [hc, ih h]

/-- The style that is chosen for a text suits it. -/
theorem suits_styleOf (text : List Char) : (styleOf (traitsOf text)).Suits text := by
  have hcode (h : (!(traitsOf text).hasControl) = true) : ∀ c ∈ text, needsCode c = false := by
    simpa [traitsOf] using h
  unfold styleOf
  split_ifs with hbasic hliteral hmulti hmultiLiteral
  · trivial
  · simp only [Bool.and_eq_true, beq_iff_eq] at hliteral
    intro c hc
    have hbreak : '\n' ∉ text := by simpa [traitsOf] using hliteral.2
    exact ⟨isPlainChar_of_needsCode (hcode hliteral.1.1 c hc) (ne_of_mem_of_not_mem hc hbreak),
      ne_of_mem_of_not_mem hc (notMem_of_longestRun hliteral.1.2)⟩
  · trivial
  · simp only [Bool.and_eq_true, decide_eq_true_eq] at hmultiLiteral
    exact ⟨hcode hmultiLiteral.1, hmultiLiteral.2⟩
  · trivial
  · trivial

/-- What is written for a character in a basic string does not begin with a quote. -/
theorem escapeBasic_eq_cons (c : Char) (text : List Char) :
    ∃ d more, escapeBasic (c :: text) = d :: more ∧ d ≠ '\x22' := by
  rw [escapeBasic]
  split_ifs with hquote hbreak
  · simp
  · simp
  · obtain ⟨d, more, hd, hne⟩ := escapedChar_eq_cons hquote
    exact ⟨d, more ++ escapeBasic text, by rw [hd, List.cons_append], hne⟩

/-- One quote, without two more, begins a basic string. -/
theorem readString_basic (h : ∀ more, rest ≠ '\x22' :: '\x22' :: more) :
    readString ('\x22' :: rest) = readBasic rest := by
  rw [readString]
  simpa using h

/-- One apostrophe, without two more, begins a literal string. -/
theorem readString_literal (h : ∀ more, rest ≠ '\x27' :: '\x27' :: more) :
    readString ('\x27' :: rest) = readLiteral rest := by
  rw [readString]
  simpa using h

/-- What is written by a style that suits it is read back, where no quote follows. -/
theorem readString_writeAs {style : Style} (h : style.Suits text) (hdouble : rest.head? ≠ some '\x22')
    (hsingle : rest.head? ≠ some '\x27') : readString (writeAs style text ++ rest) = some (text, rest) := by
  -- Three quotes in a row would begin a string of many lines, so two of them must not follow the first.
  cases style with
  | basic =>
    have hone : ∀ more, escapeBasic text ++ '\x22' :: rest ≠ '\x22' :: '\x22' :: more := by
      cases text with
      | nil =>
        rintro more hmore
        exact hdouble (by rw [List.tail_eq_of_cons_eq hmore, List.head?_cons])
      | cons c text =>
        obtain ⟨d, written, hd, hne⟩ := escapeBasic_eq_cons c text
        simp [hd, hne]
    rw [writeAs, List.append_assoc, List.singleton_append, List.cons_append, readString_basic hone,
      readBasic_escapeBasic]
  | literal =>
    have hone : ∀ more, text ++ '\x27' :: rest ≠ '\x27' :: '\x27' :: more := by
      cases text with
      | nil =>
        rintro more hmore
        exact hsingle (by rw [List.tail_eq_of_cons_eq hmore, List.head?_cons])
      | cons c text => simp [(h c List.mem_cons_self).2]
    rw [writeAs, List.append_assoc, List.singleton_append, List.cons_append, readString_literal hone,
      readLiteral_append h]
  | multiBasic =>
    rw [writeAs, List.append_assoc, List.append_assoc, List.append_assoc]
    exact (congrArg (readMultiBasic .plain) (dropNewline_opening head?_escapeMulti)).trans
      (readMultiBasic_escapeMulti (Nat.zero_le 2) hdouble)
  | multiLiteral =>
    rw [writeAs, List.append_assoc, List.append_assoc, List.append_assoc]
    exact (congrArg readMultiLiteral (dropNewline_opening (head?_append_quote h.1))).trans
      (readMultiLiteral_append h.1 h.2 hsingle)

/-- A string is read back from how it is written, where no quote follows. -/
theorem readString_writeString (text : List Char) (hdouble : rest.head? ≠ some '\x22')
    (hsingle : rest.head? ≠ some '\x27') : readString (writeString text ++ rest) = some (text, rest) :=
  readString_writeAs (suits_styleOf text) hdouble hsingle

example : writeString "\\\n\"\"\"".toList = "'''\n\\\n\"\"\"'''".toList := by decide +kernel

/-- Every string is written with a quote or an apostrophe at its start. -/
theorem writeString_eq_cons (text : List Char) :
    ∃ quote more, writeString text = quote :: more ∧ (quote = '\x22' ∨ quote = '\x27') := by
  rw [writeString]
  cases styleOf (traitsOf text) <;> simp [writeAs]

end Loopback.Toml
