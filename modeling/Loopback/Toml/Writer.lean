/-!
# Writing strings of TOML

A string is written in the plainest way that holds it: between double quotes if nothing in it
needs an escape, between single quotes if that avoids one, over several lines if either of these
still can without escapes, and with escapes otherwise.
-/

namespace Loopback.Toml

/-- What there is in a text that bears on how it is written. -/
structure Traits where
  hasControl : Bool
  hasBackslash : Bool
  hasNewline : Bool
  doubleQuotes : Nat
  singleQuotes : Nat
deriving DecidableEq, Repr

/-- A control character other than the tab and the line feed. -/
def needsCode (c : Char) : Bool :=
  (c < ' ' && c ≠ '\t' && c ≠ '\n') || c == '\x7f'

/-- The length of the longest run of a character; `run` is the length of the present one. -/
def longestRun (mark : Char) : (run best : Nat) → List Char → Nat
  | _, best, [] => best
  | run, best, c :: rest =>
    if c = mark then longestRun mark (run + 1) (max best (run + 1)) rest
    else longestRun mark 0 best rest

/-- What there is in a text. -/
def traitsOf (text : List Char) : Traits where
  hasControl := text.any needsCode
  hasBackslash := text.contains '\x5c'
  hasNewline := text.contains '\n'
  doubleQuotes := longestRun '\x22' 0 0 text
  singleQuotes := longestRun '\x27' 0 0 text

/-- The ways to write a string. -/
inductive Style where
  | basic
  | literal
  | multiBasic
  | multiLiteral
deriving DecidableEq, Repr

/-- The plainest way to write a text. -/
def styleOf (t : Traits) : Style :=
  if !t.hasControl && !t.hasBackslash && t.doubleQuotes == 0 && !t.hasNewline then .basic
  else if !t.hasControl && t.singleQuotes == 0 && !t.hasNewline then .literal
  else if !t.hasControl && !t.hasBackslash && t.doubleQuotes ≤ 2 then .multiBasic
  else if !t.hasControl && t.singleQuotes ≤ 2 then .multiLiteral
  else if t.hasNewline then .multiBasic
  else .basic

/-- A digit of the number of a control character. -/
def codeDigit (n : Nat) : Char := if n < 10 then Char.ofNat (48 + n) else Char.ofNat (55 + n)

/-- A character with an escape if it needs one, quotes and line feeds apart. -/
def escapedChar (c : Char) : List Char :=
  if c = '\x08' then ['\x5c', 'b']
  else if c = '\t' then ['\x5c', 't']
  else if c = '\x0c' then ['\x5c', 'f']
  else if c = '\r' then ['\x5c', 'r']
  else if c = '\x5c' then ['\x5c', '\x5c']
  else if needsCode c then
    ['\x5c', 'u', '0', '0', codeDigit (c.toNat / 16), codeDigit (c.toNat % 16)]
  else [c]

/-- The content of a basic string on one line. -/
def escapeBasic : List Char → List Char
  | [] => []
  | c :: rest =>
    if c = '\x22' then '\x5c' :: '\x22' :: escapeBasic rest
    else if c = '\n' then '\x5c' :: 'n' :: escapeBasic rest
    else escapedChar c ++ escapeBasic rest

/-- The content of a basic string of several lines. No three quotes may stand together, so the
third of them is escaped; `run` counts those just before. -/
def escapeMulti : (run : Nat) → List Char → List Char
  | _, [] => []
  | run, c :: rest =>
    if c = '\x22' then
      if run < 2 then '\x22' :: escapeMulti (run + 1) rest
      else '\x5c' :: '\x22' :: escapeMulti 0 rest
    else if c = '\n' then '\n' :: escapeMulti 0 rest
    else escapedChar c ++ escapeMulti 0 rest

/-- The line end after opening quotes, which makes the text begin on a line of its own. -/
def opening (text : List Char) : List Char := if text.contains '\n' then ['\n'] else []

/-- A text written in a style. -/
def writeAs (style : Style) (text : List Char) : List Char :=
  match style with
  | .basic => '\x22' :: escapeBasic text ++ ['\x22']
  | .literal => '\x27' :: text ++ ['\x27']
  | .multiBasic =>
    ['\x22', '\x22', '\x22'] ++ opening text ++ escapeMulti 0 text ++ ['\x22', '\x22', '\x22']
  | .multiLiteral =>
    ['\x27', '\x27', '\x27'] ++ opening text ++ text ++ ['\x27', '\x27', '\x27']

/-- A string, written in the plainest way that holds it. -/
def writeString (text : List Char) : List Char :=
  writeAs (styleOf (traitsOf text)) text

end Loopback.Toml
