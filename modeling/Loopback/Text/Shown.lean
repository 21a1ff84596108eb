import Loopback.Text.CharacterSets

/-!
# Values as they are shown

A text is shown in double quotes with every character it holds: the quote, the backslash and the
common controls are written with a backslash, and a character that cannot be shown, or would
join its neighbour, as `\u` with its number in braces. A single quote stays as it is. Other values
are shown by name, with their named fields in braces or their content in round brackets; one that
may be absent is `None` or `Some` with its content.
-/

namespace Loopback.Text

/-- A number in hexadecimal, small letters, without leading zeros. -/
def hexadecimal (n : Nat) : List Char :=
  Nat.toDigits 16 n

/-- One character of a quoted text. -/
def quotedChar (c : Char) : List Char :=
  if c = '\x00' then ['\x5c', '0']
  else if c = '\t' then ['\x5c', 't']
  else if c = '\n' then ['\x5c', 'n']
  else if c = '\r' then ['\x5c', 'r']
  else if c = '\x22' then ['\x5c', '\x22']
  else if c = '\x5c' then ['\x5c', '\x5c']
  else if isExtending c || isUnprintable c then
    ['\x5c', 'u', '\x7b'] ++ hexadecimal c.toNat ++ ['\x7d']
  else [c]

/-- The text between double quotes, with every character made visible. -/
def quoted (text : String) : String :=
  String.ofList (['\x22'] ++ text.toList.flatMap quotedChar ++ ['\x22'])

/-- A name and named fields: `Name { a: 1, b: 2 }`. -/
def record (name : String) (fields : List (String × String)) : String :=
  name ++ " \x7b " ++ ", ".intercalate (fields.map fun (field, value) => field ++ ": " ++ value) ++ " \x7d"

/-- A name and its content: `Name(1)`. -/
def wrapped (name content : String) : String :=
  name ++ "(" ++ content ++ ")"

/-- A value that may be absent. -/
def optional {α : Type} (shown : α → String) : Option α → String
  | none => "None"
  | some value => wrapped "Some" (shown value)

/-- A truth value. -/
def truth : Bool → String
  | true => "true"
  | false => "false"

/-- A name with its first letter made a capital. -/
def capitalized (name : String) : String :=
  match name.toList with
  | [] => ""
  | first :: rest => String.ofList (first.toUpper :: rest)

end Loopback.Text
