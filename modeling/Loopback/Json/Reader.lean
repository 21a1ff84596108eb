import Loopback.Json.Basic

/-!
# Reading JSON

A reader of one value from text. Each reader returns what it read and the rest of the text; the
nesting it may still enter is bounded by a number that starts at the length of the text.
-/

namespace Loopback.Json.Reader

/-- The text after its leading blanks. -/
def skipBlanks (text : List Char) : List Char :=
  text.dropWhile fun c => c = ' ' ∨ c = '\t' ∨ c = '\n' ∨ c = '\r'

/-- The value of four hexadecimal digits at the start of a text. -/
def readHex4 : List Char → Option (Nat × List Char)
  | a :: b :: c :: d :: rest => do
    let digit (ch : Char) : Option Nat :=
      if '0' ≤ ch ∧ ch ≤ '9' then some (ch.toNat - 48)
      else if 'a' ≤ ch ∧ ch ≤ 'f' then some (ch.toNat - 87)
      else if 'A' ≤ ch ∧ ch ≤ 'F' then some (ch.toNat - 55)
      else none
    let a ← digit a
    let b ← digit b
    let c ← digit c
    let d ← digit d
    some (((a * 16 + b) * 16 + c) * 16 + d, rest)
  | _ => none

/-- The character of a `\u` escape, of two escapes if the first is half of a pair. -/
def readEscapedChar (text : List Char) : Option (Char × List Char) := do
  let (high, rest) ← readHex4 text
  if 0xd800 ≤ high ∧ high < 0xdc00 then
    match rest with
    | '\x5c' :: 'u' :: more =>
      let (low, rest) ← readHex4 more
      if 0xdc00 ≤ low ∧ low < 0xe000 then
        some (Char.ofNat (0x10000 + (high - 0xd800) * 0x400 + (low - 0xdc00)), rest)
      else none
    | _ => none
  else if 0xdc00 ≤ high ∧ high < 0xe000 then none
  else some (Char.ofNat high, rest)

/-- The characters of a string after its opening quote, onto those already read in reverse. -/
def readString : Nat → List Char → List Char → Option (String × List Char)
  | 0, _, _ => none
  | fuel + 1, taken, text =>
    match text with
    | '\x22' :: rest => some (String.ofList taken.reverse, rest)
    | '\x5c' :: 'u' :: rest =>
      match readEscapedChar rest with
      | some (c, rest) => readString fuel (c :: taken) rest
      | none => none
    | '\x5c' :: c :: rest =>
      match c with
      | '\x22' => readString fuel (c :: taken) rest
      | '\x5c' => readString fuel (c :: taken) rest
      | '/' => readString fuel (c :: taken) rest
      | 'b' => readString fuel ('\x08' :: taken) rest
      | 'f' => readString fuel ('\x0c' :: taken) rest
      | 'n' => readString fuel ('\n' :: taken) rest
      | 'r' => readString fuel ('\r' :: taken) rest
      | 't' => readString fuel ('\t' :: taken) rest
      | _ => none
    | c :: rest => if c.toNat < 32 then none else readString fuel (c :: taken) rest
    | [] => none

/-- The value that decimal digits write. -/
def digitsValue (digits : List Char) : Nat :=
  digits.foldl (fun value c => value * 10 + (c.toNat - 48)) 0

/-- The leading digits of a text, and the rest. -/
def takeDigits (text : List Char) : List Char × List Char :=
  text.span Char.isDigit

/-- A number without a sign. Whole ones of 64 bits are integers; others round to the nearest
floating-point value. -/
def readMagnitude (negative : Bool) (text : List Char) : Option (Json × List Char) :=
  let (whole, rest) := takeDigits text
  if whole = [] then none
  else
    let (places, rest) := match rest with
      | '.' :: more => takeDigits more
      | _ => ([], rest)
    let exponent : Option (Int × List Char) := match rest with
      | e :: '-' :: more =>
        if e = 'e' ∨ e = 'E' then
          let (digits, rest) := takeDigits more
          some (-(digitsValue digits : Int), rest)
        else none
      | e :: '+' :: more =>
        if e = 'e' ∨ e = 'E' then
          let (digits, rest) := takeDigits more
          some ((digitsValue digits : Int), rest)
        else none
      | e :: more =>
        if e = 'e' ∨ e = 'E' then
          let (digits, rest) := takeDigits more
          some ((digitsValue digits : Int), rest)
        else none
      | [] => none
    let value := digitsValue (whole ++ places)
    match exponent with
    | some (e, rest) =>
      some (.real (Number.Binary64.ofDecimal negative value (e - places.length)), rest)
    | none =>
      if places = [] then
        let fits := if negative then 0 < value ∧ value ≤ Text.maxSigned64 + 1 else value ≤ Text.max64
        if fits then some (.integer (if negative then -(value : Int) else value), rest)
        else some (.real (Number.Binary64.ofDecimal negative value 0), rest)
      else some (.real (Number.Binary64.ofDecimal negative value (-(places.length : Int))), rest)

mutual

/-- One value, after any blanks. -/
def readValue : Nat → List Char → Option (Json × List Char)
  | 0, _ => none
  | fuel + 1, text =>
    match skipBlanks text with
    | 'n' :: 'u' :: 'l' :: 'l' :: rest => some (.null, rest)
    | 't' :: 'r' :: 'u' :: 'e' :: rest => some (.bool true, rest)
    | 'f' :: 'a' :: 'l' :: 's' :: 'e' :: rest => some (.bool false, rest)
    | '\x22' :: rest => (readString (rest.length + 1) [] rest).map fun (s, rest) => (.string s, rest)
    | '[' :: rest =>
      match skipBlanks rest with
      | ']' :: rest => some (.list [], rest)
      | _ => readItems fuel [] rest
    | '\x7b' :: rest =>
      match skipBlanks rest with
      | '\x7d' :: rest => some (.object [], rest)
      | _ => readMembers fuel [] rest
    | '-' :: rest => readMagnitude true rest
    | other => readMagnitude false other

/-- The items of a list up to its closing bracket, onto those already read in reverse. -/
def readItems : Nat → List Json → List Char → Option (Json × List Char)
  | 0, _, _ => none
  | fuel + 1, taken, text =>
    match readValue fuel text with
    | none => none
    | some (item, rest) =>
      match skipBlanks rest with
      | ',' :: rest => readItems fuel (item :: taken) rest
      | ']' :: rest => some (.list (item :: taken).reverse, rest)
      | _ => none

/-- The members of an object up to its closing brace, onto those already read in reverse. -/
def readMembers : Nat → List (String × Json) → List Char → Option (Json × List Char)
  | 0, _, _ => none
  | fuel + 1, taken, text =>
    match skipBlanks text with
    | '\x22' :: rest =>
      match readString (rest.length + 1) [] rest with
      | none => none
      | some (name, rest) =>
        match skipBlanks rest with
        | ':' :: rest =>
          match readValue fuel rest with
          | none => none
          | some (value, rest) =>
            match skipBlanks rest with
            | ',' :: rest => readMembers fuel ((name, value) :: taken) rest
            | '\x7d' :: rest => some (.object ((name, value) :: taken).reverse, rest)
            | _ => none
        | _ => none
    | _ => none

end

end Loopback.Json.Reader

namespace Loopback.Json

/-- The value that a text writes, if it writes exactly one. -/
def parse? (text : String) : Option Json :=
  let chars := text.toList
  match Reader.readValue (chars.length + 1) chars with
  | some (value, rest) => if Reader.skipBlanks rest = [] then some value else none
  | none => none

end Loopback.Json
