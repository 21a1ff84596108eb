import Loopback.Json.Basic

/-!
# Writing JSON

A value on one line without blanks, or over several lines with two blanks for each level.
-/

namespace Loopback.Json

/-- One character of a JSON string. -/
def stringChar (c : Char) : List Char :=
  if c = '\x22' then ['\x5c', '\x22']
  else if c = '\x5c' then ['\x5c', '\x5c']
  else if c = '\n' then ['\x5c', 'n']
  else if c = '\r' then ['\x5c', 'r']
  else if c = '\t' then ['\x5c', 't']
  else if c = '\x08' then ['\x5c', 'b']
  else if c = '\x0c' then ['\x5c', 'f']
  else if c.toNat < 32 then
    let digits := Nat.toDigits 16 c.toNat
    ['\x5c', 'u'] ++ List.replicate (4 - digits.length) '0' ++ digits
  else [c]

/-- A text as a JSON string. -/
def stringText (text : String) : String :=
  String.ofList (['\x22'] ++ text.toList.flatMap stringChar ++ ['\x22'])

mutual

/-- The value on one line. -/
def compact : Json → String
  | .null => "null"
  | .bool true => "true"
  | .bool false => "false"
  | .integer n => Text.signedDecimal n
  | .real value => value.brief
  | .string value => stringText value
  | .list items => "[" ++ ",".intercalate (compactItems items) ++ "]"
  | .object members => "\x7b" ++ ",".intercalate (compactMembers members) ++ "\x7d"

/-- The items of a list, each on one line. -/
def compactItems : List Json → List String
  | [] => []
  | item :: rest => compact item :: compactItems rest

/-- The members of an object, each on one line. -/
def compactMembers : List (String × Json) → List String
  | [] => []
  | (name, value) :: rest => (stringText name ++ ":" ++ compact value) :: compactMembers rest

end

/-- Lines between brackets, each indented one level deeper than the brackets. -/
def block (indent opening closing : String) (lines : List String) : String :=
  if lines = [] then opening ++ closing
  else
    let inner := indent ++ "  "
    opening ++ "\n" ++ ",\n".intercalate (lines.map (inner ++ ·)) ++ "\n" ++ indent ++ closing

mutual

/-- The value over several lines, the first of which is already indented. -/
def prettyAt (indent : String) : Json → String
  | .list items => block indent "[" "]" (prettyItems (indent ++ "  ") items)
  | .object members => block indent "\x7b" "\x7d" (prettyMembers (indent ++ "  ") members)
  | .null => compact .null
  | .bool value => compact (.bool value)
  | .integer value => compact (.integer value)
  | .real value => compact (.real value)
  | .string value => compact (.string value)

/-- The items of a list, each over several lines. -/
def prettyItems (indent : String) : List Json → List String
  | [] => []
  | item :: rest => prettyAt indent item :: prettyItems indent rest

/-- The members of an object, each over several lines. -/
def prettyMembers (indent : String) : List (String × Json) → List String
  | [] => []
  | (name, value) :: rest =>
    (stringText name ++ ": " ++ prettyAt indent value) :: prettyMembers indent rest

end

/-- The value over several lines. -/
def pretty (value : Json) : String := prettyAt "" value

end Loopback.Json
