import Loopback.Toml.Blank

/-!
# Strings of TOML

A basic string stands between double quotes and may hold escapes; a literal one stands between
single quotes and holds no escapes. Either may run over several lines between three quotes of its
kind; then a line end right after the opening is left out, line ends are line feeds, up to two
quotes may stand before the closing ones, and in a basic string a backslash at the end of a line
leaves out all blanks and line ends that follow.

Each reader takes the text after the opening quotes and answers the characters and what follows
the closing quotes.
-/

namespace Loopback.Toml

/-- The value of a hexadecimal digit. -/
def hexValue? (c : Char) : Option Nat :=
  if '0' ≤ c ∧ c ≤ '9' then some (c.toNat - 48)
  else if 'a' ≤ c ∧ c ≤ 'f' then some (c.toNat - 87)
  else if 'A' ≤ c ∧ c ≤ 'F' then some (c.toNat - 55)
  else none

/-- The number that hexadecimal digits write. -/
def hexNumber? : Nat → List Char → Option Nat
  | value, [] => some value
  | value, c :: rest =>
    match hexValue? c with
    | some digit => hexNumber? (value * 16 + digit) rest
    | none => none

/-- The character whose number hexadecimal digits write, if there is one. -/
def hexChar? (digits : List Char) : Option Char :=
  match hexNumber? 0 digits with
  | some n => if n.isValidChar then some (Char.ofNat n) else none
  | none => none

/-- The character that a backslash and a letter stand for. -/
def escaped? : Char → Option Char
  | 'b' => some '\x08'
  | 't' => some '\t'
  | 'n' => some '\n'
  | 'f' => some '\x0c'
  | 'r' => some '\r'
  | '\x22' => some '\x22'
  | '\x5c' => some '\x5c'
  | _ => none

/-- A character that stands for itself in a string: no control character but the tab. -/
def isPlainChar (c : Char) : Bool :=
  c == '\t' || (' ' ≤ c && c ≠ '\x7f')

/-- Put a character before what a reader has read. -/
def consChar (c : Char) : Option (List Char × List Char) → Option (List Char × List Char)
  | some (text, rest) => some (c :: text, rest)
  | none => none

/-- Put a character that may not exist before what a reader has read. -/
def consChar? (c : Option Char) (read : Option (List Char × List Char)) :
    Option (List Char × List Char) :=
  match c with
  | some c => consChar c read
  | none => none

/-- The content of a basic string on one line. -/
def readBasic : List Char → Option (List Char × List Char)
  | [] => none
  | '\x22' :: rest => some ([], rest)
  | '\x5c' :: 'u' :: a :: b :: c :: d :: rest =>
    consChar? (hexChar? [a, b, c, d]) (readBasic rest)
  | '\x5c' :: 'U' :: a :: b :: c :: d :: e :: f :: g :: h :: rest =>
    consChar? (hexChar? [a, b, c, d, e, f, g, h]) (readBasic rest)
  | '\x5c' :: c :: rest => consChar? (escaped? c) (readBasic rest)
  | c :: rest => if isPlainChar c && c ≠ '\x5c' then consChar c (readBasic rest) else none

/-- The content of a literal string on one line. -/
def readLiteral : List Char → Option (List Char × List Char)
  | [] => none
  | '\x27' :: rest => some ([], rest)
  | c :: rest => if isPlainChar c then consChar c (readLiteral rest) else none

/-- Where a reader stands in a basic string of several lines: among its characters, after a
backslash and blanks that a line end has to follow, or among what that line end leaves out. -/
inductive LineMode where
  | plain
  | ending
  | trimming
deriving DecidableEq, Repr

/-- The content of a basic string of several lines. -/
def readMultiBasic : LineMode → List Char → Option (List Char × List Char)
  | _, [] => none
  | .ending, '\n' :: rest => readMultiBasic .trimming rest
  | .ending, '\r' :: '\n' :: rest => readMultiBasic .trimming rest
  | .ending, c :: rest => if isBlank c then readMultiBasic .ending rest else none
  | .trimming, '\n' :: rest => readMultiBasic .trimming rest
  | .trimming, '\r' :: '\n' :: rest => readMultiBasic .trimming rest
  | .trimming, ' ' :: rest => readMultiBasic .trimming rest
  | .trimming, '\t' :: rest => readMultiBasic .trimming rest
  | _, '\x22' :: '\x22' :: '\x22' :: '\x22' :: '\x22' :: rest => some (['\x22', '\x22'], rest)
  | _, '\x22' :: '\x22' :: '\x22' :: '\x22' :: rest => some (['\x22'], rest)
  | _, '\x22' :: '\x22' :: '\x22' :: rest => some ([], rest)
  | _, '\x22' :: rest => consChar '\x22' (readMultiBasic .plain rest)
  | _, '\n' :: rest => consChar '\n' (readMultiBasic .plain rest)
  | _, '\r' :: '\n' :: rest => consChar '\n' (readMultiBasic .plain rest)
  | _, '\x5c' :: 'u' :: a :: b :: c :: d :: rest =>
    consChar? (hexChar? [a, b, c, d]) (readMultiBasic .plain rest)
  | _, '\x5c' :: 'U' :: a :: b :: c :: d :: e :: f :: g :: h :: rest =>
    consChar? (hexChar? [a, b, c, d, e, f, g, h]) (readMultiBasic .plain rest)
  | _, '\x5c' :: '\n' :: rest => readMultiBasic .trimming rest
  | _, '\x5c' :: '\r' :: '\n' :: rest => readMultiBasic .trimming rest
  | _, '\x5c' :: ' ' :: rest => readMultiBasic .ending rest
  | _, '\x5c' :: '\t' :: rest => readMultiBasic .ending rest
  | _, '\x5c' :: c :: rest => consChar? (escaped? c) (readMultiBasic .plain rest)
  | _, c :: rest =>
    if isPlainChar c && c ≠ '\x5c' then consChar c (readMultiBasic .plain rest) else none

/-- The content of a literal string of several lines. -/
def readMultiLiteral : List Char → Option (List Char × List Char)
  | [] => none
  | '\x27' :: '\x27' :: '\x27' :: '\x27' :: '\x27' :: rest => some (['\x27', '\x27'], rest)
  | '\x27' :: '\x27' :: '\x27' :: '\x27' :: rest => some (['\x27'], rest)
  | '\x27' :: '\x27' :: '\x27' :: rest => some ([], rest)
  | '\x27' :: rest => consChar '\x27' (readMultiLiteral rest)
  | '\n' :: rest => consChar '\n' (readMultiLiteral rest)
  | '\r' :: '\n' :: rest => consChar '\n' (readMultiLiteral rest)
  | c :: rest => if isPlainChar c then consChar c (readMultiLiteral rest) else none

/-- The text after a line end, if it begins with one. -/
def dropNewline (text : List Char) : List Char := (newline? text).getD text

/-- A string of either kind, on one line or several. -/
def readString : List Char → Option (List Char × List Char)
  | '\x22' :: '\x22' :: '\x22' :: rest => readMultiBasic .plain (dropNewline rest)
  | '\x22' :: rest => readBasic rest
  | '\x27' :: '\x27' :: '\x27' :: rest => readMultiLiteral (dropNewline rest)
  | '\x27' :: rest => readLiteral rest
  | _ => none

/-- A string of either kind, on one line. -/
def readLineString : List Char → Option (List Char × List Char)
  | '\x22' :: rest => readBasic rest
  | '\x27' :: rest => readLiteral rest
  | _ => none

end Loopback.Toml
