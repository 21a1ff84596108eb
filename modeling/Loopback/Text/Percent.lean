import Loopback.Text.Utf8

/-!
# Percent escapes of query text

In a query `+` stands for a space and `%` with two hexadecimal digits for an octet. Plus signs
are read first, so an escaped plus stays a plus. An escape that is cut short or has another
character in it stands for itself. The octets are then read back as UTF-8, leniently.
-/

namespace Loopback.Text.Percent

/-- The value of an ASCII hexadecimal digit of either case. -/
def hexValue? (octet : UInt8) : Option UInt8 :=
  if 48 ≤ octet ∧ octet ≤ 57 then some (octet - 48)
  else if 97 ≤ octet ∧ octet ≤ 102 then some (octet - 87)
  else if 65 ≤ octet ∧ octet ≤ 70 then some (octet - 55)
  else none

/-- The octet that two hexadecimal digits write. -/
def escaped? (high low : UInt8) : Option UInt8 :=
  match hexValue? high, hexValue? low with
  | some h, some l => some (h * 16 + l)
  | _, _ => none

/-- The octet `%`. -/
def mark : UInt8 := 37

/-- Read the escapes of a sequence of octets. -/
def unescape : List UInt8 → List UInt8
  | [] => []
  | [a] => [a]
  | [a, b] => [a, b]
  | a :: high :: low :: rest =>
    if a = mark then
      match escaped? high low with
      | some octet => octet :: unescape rest
      | none => a :: unescape (high :: low :: rest)
    else a :: unescape (high :: low :: rest)

/-- A plus sign stands for a space. -/
def plusToSpace (c : Char) : Char :=
  if c = '+' then ' ' else c

/-- The text that a piece of a query stands for. -/
def decode (text : List Char) : List Char :=
  Utf8.decodeLossy (unescape (Utf8.encode (text.map plusToSpace)))

/-- An octet other than the mark stands for itself. -/
theorem unescape_cons_of_ne {a : UInt8} (h : a ≠ mark) (rest : List UInt8) :
    unescape (a :: rest) = a :: unescape rest := by
  match rest with
  | [] => rfl
  | [_] => rfl
  | _ :: _ :: _ => simp [unescape, h]

end Loopback.Text.Percent
