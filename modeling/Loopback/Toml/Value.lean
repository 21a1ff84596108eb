import Loopback.Toml.Numeral
import Loopback.Toml.Section

/-!
# Reading keys and values of TOML

A key is one or more parts with dots between them, each a bare word or a string on one line. A
value is a string, a number, a date, a truth value, an array, which may run over several lines,
or a table in line, which may not. Arrays and tables in line nest to a limited depth, and a key
has a limited number of parts.

Each reader answers what it has read and the rest of the text.
-/

namespace Loopback.Toml

/-- The depth to which values may not nest, and the number of parts a key may not have. -/
def depthLimit : Nat := 80

/-- A character of a bare word. -/
def isBareChar (c : Char) : Bool := c.isAlphanum || c == '_' || c == '-'

/-- One part of a key. -/
def readKeyPart (text : List Char) : Option (String × List Char) :=
  match text with
  | [] => none
  | c :: _ =>
    if c = '\x22' ∨ c = '\x27' then
      (readLineString text).map fun (part, rest) => (String.ofList part, rest)
    else
      let word := text.takeWhile isBareChar
      if word = [] then none else some (String.ofList word, text.dropWhile isBareChar)

/-- The parts of a key, with blanks around each. `limit` bounds how many there are. -/
def readKeyParts : Nat → List Char → Option (List String × List Char)
  | 0, _ => none
  | limit + 1, text =>
    match readKeyPart (skipBlanks text) with
    | none => none
    | some (part, rest) =>
      match skipBlanks rest with
      | '.' :: rest => (readKeyParts limit rest).map fun (parts, rest) => (part :: parts, rest)
      | rest => some ([part], rest)

/-- A key, as the path to its last part and that part. -/
def readKey (text : List Char) : Option (List String × String × List Char) :=
  match readKeyParts (depthLimit - 1) text with
  | some (parts, rest) => parts.getLast?.map fun last => (parts.dropLast, last, rest)
  | none => none

mutual

/-- A value nested `depth` levels deep. -/
def readValue : (fuel depth : Nat) → List Char → Option (Toml × List Char)
  | 0, _, _ => none
  | fuel + 1, depth, text =>
    match text with
    | '\x22' :: _ => (readString text).map fun (s, rest) => (.string (String.ofList s), rest)
    | '\x27' :: _ => (readString text).map fun (s, rest) => (.string (String.ofList s), rest)
    | '[' :: rest =>
      if depth + 1 < depthLimit then
        (readItems fuel (depth + 1) rest).map fun (items, rest) => (.array items, rest)
      else none
    | '\x7b' :: rest =>
      if depth + 1 < depthLimit then
        match skipBlanks rest with
        | '\x7d' :: rest => some (.table [], rest)
        | _ =>
          (readPairs fuel (depth + 1) .empty rest).map fun (sub, rest) => (sub.value, rest)
      else none
    | 't' :: 'r' :: 'u' :: 'e' :: rest => some (.boolean true, rest)
    | 'f' :: 'a' :: 'l' :: 's' :: 'e' :: rest => some (.boolean false, rest)
    | other => readNumber other

/-- The items of an array up to its closing bracket. -/
def readItems : (fuel depth : Nat) → List Char → Option (List Toml × List Char)
  | 0, _, _ => none
  | fuel + 1, depth, text =>
    match skipLines (text.length + 1) text with
    | ']' :: rest => some ([], rest)
    | text =>
      match readValue fuel depth text with
      | none => none
      | some (item, rest) =>
        match skipLines (rest.length + 1) rest with
        | ',' :: rest => (readItems fuel depth rest).map fun (items, rest) => (item :: items, rest)
        | ']' :: rest => some ([item], rest)
        | _ => none

/-- The pairs of a table in line up to its closing brace, onto those already read. -/
def readPairs : (fuel depth : Nat) → Section → List Char → Option (Section × List Char)
  | 0, _, _, _ => none
  | fuel + 1, depth, sub, text =>
    match readKey text with
    | none => none
    | some (path, key, rest) =>
      match rest with
      | '=' :: rest =>
        match readValue fuel depth (skipBlanks rest) with
        | none => none
        | some (value, rest) =>
          match sub.insertValue path key value with
          | none => none
          | some sub =>
            match skipBlanks rest with
            | ',' :: rest => readPairs fuel depth sub rest
            | '\x7d' :: rest => some (sub, rest)
            | _ => none
      | _ => none

end

end Loopback.Toml
