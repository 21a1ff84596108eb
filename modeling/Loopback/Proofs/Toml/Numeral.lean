import Loopback.Proofs.Text.Numeral
import Loopback.Toml.Numeral
import Mathlib.Tactic.SplitIfs

/-!
# Reading back the numbers that are written

The decimal digits of a number, up to the end of their line, are read as that number: they are no date, no time
and no floating-point number, since none of the marks of these stands among digits, and they have no zero in
front.
-/

namespace Loopback.Toml

variable {c mark : Char} {digits rest : List Char}

/-- The digits at the front of a text are taken up to the first character that can be none of theirs. -/
theorem takeDigits_append (hsome : digits ≠ []) (hdigits : ∀ c ∈ digits, c.isDigit = true)
    (hmark : mark.isDigit = false) (hscore : mark ≠ '_') :
    takeDigits Char.isDigit (digits ++ mark :: rest) = some (digits, mark :: rest) := by
  induction digits with
  | nil => exact absurd rfl hsome
  | cons c digits ih =>
    obtain ⟨hc, hdigits⟩ := List.forall_mem_cons.1 hdigits
    cases digits with
    | nil => simp [takeDigits, hc, hmark, hscore]
    | cons d digits =>
      have hd : d.isDigit = true := hdigits d List.mem_cons_self
      have hplain : d ≠ '_' := by
        rintro rfl
        cases hd
      have hrest := ih (List.cons_ne_nil _ _) hdigits
      rw [List.cons_append] at hrest
      simp [takeDigits, hc, hd, hplain, hrest, consChar]

/-- A digit is worth as much as a hexadecimal one. -/
theorem hexValue?_of_isDigit (h : c.isDigit = true) : hexValue? c = some (c.toNat - '0'.toNat) := by
  simp [hexValue?, Text.isDigit_iff.1 h]

/-- Digits are worth as much when read as hexadecimal ones on the base of ten. -/
theorem foldl_hexValue? (hdigits : ∀ c ∈ digits, c.isDigit = true) (value : Nat) :
    digits.foldl (fun value c => value * 10 + (hexValue? c).getD 0) value = Nat.ofDigitChars 10 digits value := by
  induction digits generalizing value with
  | nil => rfl
  | cons c digits ih =>
    obtain ⟨hc, hdigits⟩ := List.forall_mem_cons.1 hdigits
    rw [List.foldl_cons, Nat.ofDigitChars_cons, hexValue?_of_isDigit hc, Option.getD_some, Nat.mul_comm value,
      ih hdigits]

/-- The value of decimal digits is the number that they write. -/
theorem digitsValue_toDigits (n : Nat) : digitsValue 10 (Nat.toDigits 10 n) = n := by
  rw [digitsValue, foldl_hexValue? fun _ => Nat.isDigit_of_mem_toDigits (by decide) (by decide),
    Nat.ofDigitChars_toDigits (by decide) (by decide)]

section dates

/-- Digits are not followed by the mark of a date or a time. -/
theorem expect?_of_digits {front text : List Char} (hdigits : ∀ c ∈ digits, c.isDigit = true)
    (hfront : ∀ c ∈ front, c.isDigit = true) (h : digits ++ '\n' :: rest = front ++ text)
    (hmark : mark.isDigit = false) (hbreak : mark ≠ '\n') : expect? mark text = none := by
  cases text with
  | nil => rfl
  | cons c text =>
    have hc : c ≠ mark := by
      rintro rfl
      have hafter := congrArg (List.dropWhile Char.isDigit) h
      rw [List.dropWhile_append_of_pos hdigits, List.dropWhile_append_of_pos hfront,
        List.dropWhile_cons_of_neg (by decide), List.dropWhile_cons_of_neg (by simp [hmark])] at hafter
      exact hbreak (List.head_eq_of_cons_eq hafter).symm
    simp [expect?, hc]

/-- What is read as a number of two digits begins with two digits. -/
theorem readTwo_eq_some {low high value : Nat} {text after : List Char}
    (h : readTwo low high text = some (value, after)) :
    ∃ a b, a.isDigit = true ∧ b.isDigit = true ∧ text = [a, b] ++ after := by
  unfold readTwo at h
  split at h
  next a b text =>
    split at h
    next hab =>
      dsimp only at h
      split_ifs at h
      cases h
      obtain ⟨ha, hb⟩ := Bool.and_eq_true_iff.1 hab
      exact ⟨a, b, ha, hb, rfl⟩
    next => cases h
  next => cases h

/-- Digits at the end of a line are not a time. -/
theorem skipTime?_digits (hdigits : ∀ c ∈ digits, c.isDigit = true) :
    skipTime? (digits ++ '\n' :: rest) = none := by
  unfold skipTime?
  cases h : readTwo 0 23 (digits ++ '\n' :: rest) with
  | none => rfl
  | some read =>
    obtain ⟨a, b, ha, hb, hrest⟩ := readTwo_eq_some h
    have hmark : expect? ':' read.2 = none :=
      expect?_of_digits hdigits (by simp [ha, hb]) hrest rfl (by decide)
    simp [hmark]

/-- Digits at the end of a line are not a date. -/
theorem skipDate?_digits (hdigits : ∀ c ∈ digits, c.isDigit = true) :
    skipDate? (digits ++ '\n' :: rest) = none := by
  unfold skipDate?
  split
  next a b c d text htext =>
    split_ifs with hfront
    · simp only [Bool.and_eq_true] at hfront
      have hdate : digits ++ '\n' :: rest = [a, b, c, d] ++ text := htext
      have hmark : expect? '-' text = none :=
        expect?_of_digits hdigits (by simp [hfront]) hdate rfl (by decide)
      rw [hmark]
      rfl
    · rfl
  next => rfl

/-- Digits at the end of a line are neither a date nor a time. -/
theorem readDatetime_digits (hdigits : ∀ c ∈ digits, c.isDigit = true) :
    readDatetime (digits ++ '\n' :: rest) = none := by
  rw [readDatetime, skipDate?_digits hdigits, skipTime?_digits hdigits]
  rfl

end dates

section numbers

variable {n : Nat}

/-- The digit of a positive number is not zero. -/
theorem digitChar_ne_zero : ∀ n < 10, 0 < n → Nat.digitChar n ≠ '0' := by
  decide

/-- A number other than zero is written without a zero in front. -/
theorem toDigits_ne_zero_cons (hn : 0 < n) : Nat.toDigits 10 n ≠ '0' :: rest := by
  induction n using Nat.strongRecOn generalizing rest with
  | ind n ih =>
    rw [Nat.toDigits_eq_if (by decide)]
    split_ifs with hsmall
    · simp [digitChar_ne_zero n hsmall hn]
    · obtain ⟨c, more, hmore⟩ := List.exists_cons_of_ne_nil (Nat.toDigits_ne_nil (n := n / 10) (b := 10))
      rw [hmore, List.cons_append]
      intro hzero
      have hc : c = '0' := List.head_eq_of_cons_eq hzero
      exact ih (n / 10) (by omega) (by omega) (hc ▸ hmore)

/-- The decimal digits of a number are digits. -/
theorem isDigit_toDigits (n : Nat) : ∀ c ∈ Nat.toDigits 10 n, c.isDigit = true :=
  fun _ => Nat.isDigit_of_mem_toDigits (by decide) (by decide)

/-- A number begins with a digit. -/
theorem toDigits_eq_cons (n : Nat) : ∃ c more, Nat.toDigits 10 n = c :: more ∧ c.isDigit = true := by
  obtain ⟨c, more, hmore⟩ := List.exists_cons_of_ne_nil (Nat.toDigits_ne_nil (n := n) (b := 10))
  exact ⟨c, more, hmore, isDigit_toDigits n c (hmore ▸ List.mem_cons_self)⟩

/-- What begins with the decimal digits of a number begins with a digit. -/
theorem isDigit_of_toDigits_append {more : List Char} (h : Nat.toDigits 10 n ++ rest = c :: more) :
    c.isDigit = true := by
  obtain ⟨d, digits, hdigits, hd⟩ := toDigits_eq_cons n
  rw [hdigits, List.cons_append] at h
  exact List.head_eq_of_cons_eq h ▸ hd

/-- The decimal digits of a positive number do not begin with zero. -/
theorem toDigits_append_ne_zero_cons {more : List Char} (hn : 0 < n) :
    Nat.toDigits 10 n ++ rest ≠ '0' :: more := by
  obtain ⟨c, digits, hdigits, -⟩ := toDigits_eq_cons n
  intro h
  rw [hdigits, List.cons_append] at h
  exact toDigits_ne_zero_cons hn (hdigits.trans (by rw [List.head_eq_of_cons_eq h]))

/-- A zero at the front of a number is all of it. -/
theorem eq_newline_of_toDigits {more : List Char} (h : Nat.toDigits 10 n ++ '\n' :: rest = '0' :: c :: more) :
    c = '\n' := by
  rcases Nat.eq_zero_or_pos n with rfl | hn
  · exact (List.head_eq_of_cons_eq (List.tail_eq_of_cons_eq h)).symm
  · exact absurd h (toDigits_append_ne_zero_cons hn)

/-- The decimal digits of a number are read as a whole number. -/
theorem takeWhole_toDigits (n : Nat) :
    takeWhole (Nat.toDigits 10 n ++ '\n' :: rest) = some (Nat.toDigits 10 n, '\n' :: rest) := by
  rcases Nat.eq_zero_or_pos n with rfl | hn
  · rfl
  · rw [takeWhole]
    · exact takeDigits_append Nat.toDigits_ne_nil (isDigit_toDigits n) rfl (by decide)
    · exact fun _ => toDigits_append_ne_zero_cons hn

/-- The decimal digits of a number have no sign. -/
theorem readSign_toDigits (n : Nat) :
    readSign (Nat.toDigits 10 n ++ rest) = (false, Nat.toDigits 10 n ++ rest) := by
  unfold readSign
  split
  next h => cases isDigit_of_toDigits_append h
  next h => cases isDigit_of_toDigits_append h
  next => rfl

/-- The decimal digits of a number at the end of a line are not a fraction. -/
theorem readFloat_toDigits (n : Nat) : readFloat (Nat.toDigits 10 n ++ '\n' :: rest) = none := by
  unfold readFloat
  rw [readSign_toDigits]
  dsimp only
  split
  next h => cases isDigit_of_toDigits_append h
  next h => cases isDigit_of_toDigits_append h
  next =>
    rw [takeWhole_toDigits]
    rfl

/-- The decimal digits of a number of up to 63 bits are read as that number. -/
theorem readInteger_toDigits (hn : n ≤ Text.maxSigned64) :
    readInteger (Nat.toDigits 10 n ++ '\n' :: rest) = some (.integer n, '\n' :: rest) := by
  unfold readInteger
  split
  next h => cases eq_newline_of_toDigits h
  next h => cases eq_newline_of_toDigits h
  next h => cases eq_newline_of_toDigits h
  next =>
    rw [readSign_toDigits]
    dsimp only
    rw [takeWhole_toDigits]
    simp [digitsValue_toDigits, hn]

/-- A number is read back from its digits, up to the end of their line. -/
theorem readNumber_toDigits (hn : n ≤ Text.maxSigned64) :
    readNumber (Nat.toDigits 10 n ++ '\n' :: rest) = some (.integer n, '\n' :: rest) := by
  rw [readNumber, readDatetime_digits (isDigit_toDigits n), readFloat_toDigits, readInteger_toDigits hn]
  rfl

end numbers

end Loopback.Toml
