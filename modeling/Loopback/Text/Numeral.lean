/-!
# Whole numbers in decimal

A numeral is one or more ASCII digits, after a sign where one is allowed. Reading stops at the
first character that is at fault: one that is no digit, or the digit that takes the value past
its bound.
-/

namespace Loopback.Text

/-- Why a text is not a numeral of the width asked for. -/
inductive NumeralFault where
  | empty
  | invalidDigit
  | tooLarge
  | tooSmall
deriving DecidableEq, Repr

/-- The wording of a fault. -/
def NumeralFault.message : NumeralFault → String
  | .empty => "cannot parse integer from empty string"
  | .invalidDigit => "invalid digit found in string"
  | .tooLarge => "number too large to fit in target type"
  | .tooSmall => "number too small to fit in target type"

/-- The value of an ASCII digit. -/
def digitValue? (c : Char) : Option Nat :=
  if '0' ≤ c ∧ c ≤ '9' then some (c.toNat - 48) else none

/-- Read digits onto a value that has to stay within `bound`; `past` is the fault of passing it. -/
def readDigits (bound : Nat) (past : NumeralFault) : Nat → List Char → Except NumeralFault Nat
  | value, [] => .ok value
  | value, c :: rest =>
    match digitValue? c with
    | none => .error .invalidDigit
    | some d =>
      if value * 10 + d ≤ bound then readDigits bound past (value * 10 + d) rest
      else .error past

/-- A number from 0 to `bound`, with or without a plus sign. -/
def readNatural (bound : Nat) : List Char → Except NumeralFault Nat
  | [] => .error .empty
  | ['+'] => .error .invalidDigit
  | '+' :: digits => readDigits bound .tooLarge 0 digits
  | digits => readDigits bound .tooLarge 0 digits

/-- A number from `-(bound + 1)` to `bound`, with or without a sign. -/
def readInteger (bound : Nat) : List Char → Except NumeralFault Int
  | [] => .error .empty
  | ['+'] => .error .invalidDigit
  | ['-'] => .error .invalidDigit
  | '+' :: digits => (readDigits bound .tooLarge 0 digits).map Int.ofNat
  | '-' :: digits => (readDigits (bound + 1) .tooSmall 0 digits).map fun n => -Int.ofNat n
  | digits => (readDigits bound .tooLarge 0 digits).map Int.ofNat

/-- The greatest number of 32 bits. -/
def max32 : Nat := 4294967295

/-- The greatest number of 64 bits. -/
def max64 : Nat := 18446744073709551615

/-- The greatest signed number of 64 bits. -/
def maxSigned64 : Nat := 9223372036854775807

/-- A number in decimal. -/
def decimal (n : Nat) : String :=
  String.ofList (Nat.toDigits 10 n)

/-- A number in decimal, after a minus sign if it is negative. -/
def signedDecimal (n : Int) : String :=
  if n < 0 then "-" ++ decimal n.natAbs else decimal n.natAbs

/-- A number in decimal, with zeros in front up to a width. -/
def padded (width n : Nat) : List Char :=
  let digits := Nat.toDigits 10 n
  List.replicate (width - digits.length) '0' ++ digits

end Loopback.Text
