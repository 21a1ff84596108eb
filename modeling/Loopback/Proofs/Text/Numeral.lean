import Loopback.Text.Numeral
import Mathlib.Data.Nat.Digits.Defs

/-!
# What numerals write

A numeral is told here by the number that its digits write. What is read as a number within a bound is
exactly a numeral of such a number, so reading is never cut short by a digit that would still have fitted.
-/

namespace Loopback.Text

/-- A numeral within a bound: one or more digits, with or without a plus sign before them, that write a
number up to that bound. -/
def IsNumeral (bound : Nat) (text : List Char) (n : Nat) : Prop :=
  ∃ digits, digits ≠ [] ∧ (∀ c ∈ digits, c.isDigit = true) ∧ (text = digits ∨ text = '+' :: digits) ∧
    Nat.ofDigitChars 10 digits 0 = n ∧ n ≤ bound

variable {bound value n : Nat} {past : NumeralFault} {digits text : List Char}

/-- The digits are those from zero to nine. -/
theorem isDigit_iff {c : Char} : c.isDigit = true ↔ '0' ≤ c ∧ c ≤ '9' := by
  simp [Char.isDigit, Char.le_def]

/-- A digit is worth as much as it stands after zero. -/
theorem digitValue?_of_isDigit {c : Char} (h : c.isDigit = true) :
    digitValue? c = some (c.toNat - '0'.toNat) := by
  simp [digitValue?, isDigit_iff.1 h]

/-- What is no digit is worth nothing. -/
theorem digitValue?_of_not_isDigit {c : Char} (h : c.isDigit = false) : digitValue? c = none := by
  rw [digitValue?, if_neg (by simp [← isDigit_iff, h])]

/-- More digits write no smaller number. -/
theorem le_ofDigitChars (value : Nat) (digits : List Char) : value ≤ Nat.ofDigitChars 10 digits value := by
  rw [Nat.ofDigitChars_eq_ofDigitChars_zero]
  exact (Nat.le_mul_of_pos_left value (by positivity)).trans (Nat.le_add_right _ _)

/-- Digits are read onto a value if and only if the number they write stays within the bound. -/
theorem readDigits_eq_ok_iff (hvalue : value ≤ bound) :
    readDigits bound past value digits = .ok n ↔
      (∀ c ∈ digits, c.isDigit = true) ∧ Nat.ofDigitChars 10 digits value = n ∧ n ≤ bound := by
  induction digits generalizing value with
  | nil =>
    simp only [readDigits, Except.ok.injEq, List.not_mem_nil, false_implies, implies_true, true_and,
      Nat.ofDigitChars_nil]
    exact ⟨fun h => ⟨h, h ▸ hvalue⟩, And.left⟩
  | cons c digits ih =>
    cases hdigit : c.isDigit with
    | false => simp [readDigits, digitValue?_of_not_isDigit hdigit, hdigit]
    | true =>
      have hmore := le_ofDigitChars (10 * value + (c.toNat - '0'.toNat)) digits
      simp only [readDigits, digitValue?_of_isDigit hdigit, Nat.mul_comm value 10]
      split
      next hfits =>
        rw [ih hfits]
        simp [hdigit, Nat.ofDigitChars_cons]
      next hpast =>
        simp only [reduceCtorEq, Nat.ofDigitChars_cons, false_iff, not_and]
        rintro - rfl
        omega

/-- A sign is followed by one digit or more. -/
theorem isNumeral_plus : IsNumeral bound ('+' :: digits) n ↔
    digits ≠ [] ∧ (∀ c ∈ digits, c.isDigit = true) ∧ Nat.ofDigitChars 10 digits 0 = n ∧ n ≤ bound := by
  constructor
  · rintro ⟨written, hsome, hdigits, hwritten | hwritten, hvalue⟩
    · have hplus : ('+' : Char).isDigit = true := hdigits _ (hwritten ▸ List.mem_cons_self)
      cases hplus
    · cases hwritten
      exact ⟨hsome, hdigits, hvalue⟩
  · rintro ⟨hsome, hdigits, hvalue⟩
    exact ⟨digits, hsome, hdigits, .inr rfl, hvalue⟩

/-- Without a sign there are digits only, one or more. -/
theorem isNumeral_of_head_ne (h : text.head? ≠ some '+') : IsNumeral bound text n ↔
    text ≠ [] ∧ (∀ c ∈ text, c.isDigit = true) ∧ Nat.ofDigitChars 10 text 0 = n ∧ n ≤ bound := by
  constructor
  · rintro ⟨digits, hsome, hdigits, rfl | rfl, hvalue⟩
    · exact ⟨hsome, hdigits, hvalue⟩
    · exact absurd rfl h
  · rintro ⟨hsome, hdigits, hvalue⟩
    exact ⟨text, hsome, hdigits, .inl rfl, hvalue⟩

/-- What is read as a number is a numeral, and a numeral is read as the number that it writes. -/
theorem readNatural_eq_ok_iff : readNatural bound text = .ok n ↔ IsNumeral bound text n := by
  unfold readNatural
  split
  · rw [isNumeral_of_head_ne (by simp)]
    simp
  · simp [isNumeral_plus]
  next digits hsome =>
    rw [readDigits_eq_ok_iff (Nat.zero_le bound), isNumeral_plus]
    exact ⟨fun h => ⟨hsome, h⟩, And.right⟩
  next digits hsome hplus hsigned =>
    have hhead : text.head? ≠ some '+' := by
      cases text with
      | nil => simp
      | cons c rest => simpa using fun hc => hsigned rest (by rw [hc])
    rw [readDigits_eq_ok_iff (Nat.zero_le bound), isNumeral_of_head_ne hhead]
    exact ⟨fun h => ⟨hsome, h⟩, And.right⟩

/-- What is read keeps within the bound. -/
theorem readNatural_le (h : readNatural bound text = .ok n) : n ≤ bound := by
  obtain ⟨_, _, _, _, _, hle⟩ := readNatural_eq_ok_iff.1 h
  exact hle

end Loopback.Text
