import Loopback.Toml.Quoted
import Loopback.Toml.Basic
import Loopback.Text.Numeral

/-!
# Numbers and dates of TOML

Whole numbers are signed and of 64 bits, in base ten or, without a sign, in base sixteen, eight
or two. A floating-point number has places, an exponent, or both. Between any two digits there may
be one underscore. A date, a time, or both are read for their form and ranges only.

Each reader answers what it has read and the rest of the text.
-/

namespace Loopback.Toml

/-- The digits of a kind that a text begins with, less the underscores between them. There has to
be one digit at least, and after an underscore another. -/
def takeDigits (isDigit : Char → Bool) : List Char → Option (List Char × List Char)
  | [] => none
  | [c] => if isDigit c then some ([c], []) else none
  | c :: d :: rest =>
    if isDigit c then
      if d = '_' then consChar c (takeDigits isDigit rest)
      else if isDigit d then consChar c (takeDigits isDigit (d :: rest))
      else some ([c], d :: rest)
    else none

/-- The value of digits in a base. -/
def digitsValue (base : Nat) (digits : List Char) : Nat :=
  digits.foldl (fun value c => value * base + (hexValue? c).getD 0) 0

/-- The sign of a number, and what follows it. -/
def readSign : List Char → Bool × List Char
  | '-' :: rest => (true, rest)
  | '+' :: rest => (false, rest)
  | text => (false, text)

/-- The digits of a whole number in base ten, which have no zero in front. -/
def takeWhole : List Char → Option (List Char × List Char)
  | '0' :: rest => some (['0'], rest)
  | text => takeDigits Char.isDigit text

/-- A whole number without a sign, in a base other than ten. -/
def readBased (base : Nat) (isDigit : Char → Bool) (text : List Char) :
    Option (Toml × List Char) :=
  match takeDigits isDigit text with
  | some (digits, rest) =>
    let value := digitsValue base digits
    if value ≤ Text.maxSigned64 then some (.integer value, rest) else none
  | none => none

/-- Whether a character is a hexadecimal digit. -/
def isHexDigit (c : Char) : Bool := (hexValue? c).isSome

/-- A whole number. -/
def readInteger : List Char → Option (Toml × List Char)
  | '0' :: 'x' :: rest => readBased 16 isHexDigit rest
  | '0' :: 'o' :: rest => readBased 8 (fun c => '0' ≤ c && c ≤ '7') rest
  | '0' :: 'b' :: rest => readBased 2 (fun c => c == '0' || c == '1') rest
  | text =>
    let (negative, text) := readSign text
    match takeWhole text with
    | some (digits, rest) =>
      let value := digitsValue 10 digits
      if negative then
        if value ≤ Text.maxSigned64 + 1 then some (.integer (-(value : Int)), rest) else none
      else if value ≤ Text.maxSigned64 then some (.integer value, rest)
      else none
    | none => none

/-- The exponent of a floating-point number. -/
def readExponent : List Char → Option (Int × List Char)
  | 'e' :: rest => readPower rest
  | 'E' :: rest => readPower rest
  | _ => none
where
  /-- The signed digits after the letter. -/
  readPower (text : List Char) : Option (Int × List Char) :=
    let (negative, text) := readSign text
    match takeDigits Char.isDigit text with
    | some (digits, rest) =>
      let value : Int := digitsValue 10 digits
      some (if negative then -value else value, rest)
    | none => none

/-- A floating-point number. One that is too large is refused, unless it is negative. -/
def readFloat (text : List Char) : Option (Toml × List Char) :=
  let (negative, text) := readSign text
  match text with
  | 'i' :: 'n' :: 'f' :: rest => some (.float (.infinite negative), rest)
  | 'n' :: 'a' :: 'n' :: rest => some (.float .nan, rest)
  | _ =>
    match takeWhole text with
    | none => none
    | some (whole, rest) =>
      let build (places : List Char) (exponent : Int) (rest : List Char) :
          Option (Toml × List Char) :=
        let value := Number.Binary64.ofDecimal negative (digitsValue 10 (whole ++ places))
          (exponent - places.length)
        if value = .infinite false then none else some (.float value, rest)
      match rest with
      | '.' :: rest =>
        match takeDigits Char.isDigit rest with
        | none => none
        | some (places, rest) =>
          match rest with
          | e :: _ =>
            if e = 'e' ∨ e = 'E' then
              match readExponent rest with
              | some (exponent, rest) => build places exponent rest
              | none => none
            else build places 0 rest
          | [] => build places 0 rest
      | _ =>
        match readExponent rest with
        | some (exponent, rest) => build [] exponent rest
        | none => none

/-- The value of two digits within bounds. -/
def readTwo (low high : Nat) : List Char → Option (Nat × List Char)
  | a :: b :: rest =>
    if a.isDigit && b.isDigit then
      let value := digitsValue 10 [a, b]
      if low ≤ value ∧ value ≤ high then some (value, rest) else none
    else none
  | _ => none

/-- The days of a month. -/
def daysOf (year month : Nat) : Nat :=
  let leap := year % 4 = 0 ∧ (year % 100 ≠ 0 ∨ year % 400 = 0)
  if month = 2 then (if leap then 29 else 28)
  else if month = 4 ∨ month = 6 ∨ month = 9 ∨ month = 11 then 30
  else 31

/-- The text after one given character. -/
def expect? (mark : Char) : List Char → Option (List Char)
  | c :: rest => if c = mark then some rest else none
  | [] => none

/-- The text after a date. -/
def skipDate? (text : List Char) : Option (List Char) :=
  match text with
  | a :: b :: c :: d :: rest =>
    if a.isDigit && b.isDigit && c.isDigit && d.isDigit then do
      let rest ← expect? '-' rest
      let (month, rest) ← readTwo 1 12 rest
      let rest ← expect? '-' rest
      let (day, rest) ← readTwo 1 31 rest
      if day ≤ daysOf (digitsValue 10 [a, b, c, d]) month then some rest else none
    else none
  | _ => none

/-- The text after a time of day. -/
def skipTime? (text : List Char) : Option (List Char) := do
  let (_, rest) ← readTwo 0 23 text
  let rest ← expect? ':' rest
  let (_, rest) ← readTwo 0 59 rest
  let rest ← expect? ':' rest
  let (_, rest) ← readTwo 0 60 rest
  match rest with
  | '.' :: more =>
    if (more.takeWhile Char.isDigit).isEmpty then none else some (more.dropWhile Char.isDigit)
  | _ => some rest

/-- The text after the offset of a time, if it has one. -/
def skipOffset (text : List Char) : Option (List Char) :=
  match text with
  | 'Z' :: rest => some rest
  | 'z' :: rest => some rest
  | sign :: rest =>
    if sign = '+' ∨ sign = '-' then do
      let (_, rest) ← readTwo 0 23 rest
      let rest ← expect? ':' rest
      let (_, rest) ← readTwo 0 59 rest
      some rest
    else some (sign :: rest)
  | [] => some []

/-- A date, a time, or a date and a time with or without an offset. -/
def readDatetime (text : List Char) : Option (Toml × List Char) :=
  match skipDate? text with
  | some rest =>
    match rest with
    | mark :: more =>
      if mark = 'T' ∨ mark = 't' ∨ mark = ' ' then
        match skipTime? more with
        | some rest => (skipOffset rest).map fun rest => (.datetime, rest)
        | none => some (.datetime, rest)
      else some (.datetime, rest)
    | [] => some (.datetime, rest)
  | none => (skipTime? text).map fun rest => (.datetime, rest)

/-- A number or a date. -/
def readNumber (text : List Char) : Option (Toml × List Char) :=
  ((readDatetime text).orElse fun _ => readFloat text).orElse fun _ => readInteger text

end Loopback.Toml
