/-!
# Blanks, comments and line ends of TOML

Blanks are spaces and tabs. A line ends with a line feed, with or without a carriage return
before it. A comment runs from `#` to the end of its line and holds no control character but the
tab.
-/

namespace Loopback.Toml

/-- A space or a tab. -/
def isBlank (c : Char) : Bool := c == ' ' || c == '\t'

/-- A character that may stand in a comment: no control character but the tab. -/
def isCommentChar (c : Char) : Bool :=
  c == '\t' || (' ' ≤ c && c ≠ '\x7f')

/-- The text after its leading blanks. -/
def skipBlanks (text : List Char) : List Char := text.dropWhile isBlank

/-- The text after a comment, if it begins with one. -/
def skipComment (text : List Char) : List Char :=
  match text with
  | '#' :: rest => rest.dropWhile isCommentChar
  | other => other

/-- The text after a line end. -/
def newline? : List Char → Option (List Char)
  | '\n' :: rest => some rest
  | '\r' :: '\n' :: rest => some rest
  | _ => none

/-- The text after a line end, which the end of the text is as well. -/
def lineEnd? : List Char → Option (List Char)
  | [] => some []
  | text => newline? text

/-- The text after the rest of a line that holds nothing more but blanks and a comment. -/
def restOfLine? (text : List Char) : Option (List Char) :=
  lineEnd? (skipComment (skipBlanks text))

/-- The text after blanks, line ends and comments, each comment with its line end. `limit` bounds
how many lines are passed. -/
def skipLines : Nat → List Char → List Char
  | 0, text => text
  | limit + 1, text =>
    let text := skipBlanks text
    match text with
    | '#' :: _ =>
      match newline? (skipComment text) with
      | some rest => skipLines limit rest
      | none => text
    | other =>
      match newline? other with
      | some rest => skipLines limit rest
      | none => other

end Loopback.Toml
