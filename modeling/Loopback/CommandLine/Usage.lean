import Loopback.CommandLine.Flag

/-!
# Use and misuse of the command

What the command says of itself, and what it says to one who calls it wrongly.
-/

namespace Loopback.CommandLine

/-- The name of the command. -/
def commandName : String := "loop-serial"

/-- What the command says when it is asked for its version. -/
def versionText : String := commandName ++ " 0.3.0"

/-- What is sent if no message is given. -/
def defaultMessage : String := "hello, loopback"

/-- How the command is called. -/
def usageText : String := "Usage: " ++ commandName ++ " [OPTIONS] [MESSAGE]"

/-- How a call of the command is wrong. -/
inductive Misuse where
  | unexpectedArgument (text : String)
  | missingValue (flag : Flag)
  | unexpectedValue (flag : Flag) (value : String)
  | repeated (flag : Flag)
  | invalidValue (flag : Flag) (value reason : String)
deriving DecidableEq, Repr

namespace Misuse

/-- A text between single quotation marks. -/
def marked (text : String) : String := "\x27" ++ text ++ "\x27"

/-- What is wrong. -/
def message : Misuse → String
  | .unexpectedArgument text => "unexpected argument " ++ marked text ++ " found"
  | .missingValue flag => "a value is required for " ++ marked flag.shown ++ " but none was supplied"
  | .unexpectedValue flag value =>
    "unexpected value " ++ marked value ++ " for " ++ marked flag.shown ++
      " found; no more were expected"
  | .repeated flag => "the argument " ++ marked flag.shown ++ " cannot be used multiple times"
  | .invalidValue flag value reason =>
    "invalid value " ++ marked value ++ " for " ++ marked flag.shown ++ ": " ++ reason

/-- All that is said to one who calls the command wrongly. -/
def text (misuse : Misuse) : String :=
  "error: " ++ misuse.message ++ "\n\n" ++ usageText ++ "\n\nFor more information, try " ++
    marked (Flag.shown .help) ++ ".\n"

end Misuse

/-- What is said of one flag. -/
def flagLine (flag : Flag) : String :=
  let letter :=
    match flag.letter? with
    | some letter => "-" ++ String.singleton letter ++ ", "
    | none => "    "
  "  " ++ letter ++ flag.shown ++ "\n          " ++ flag.purpose ++ "\n"

/-- What the command says when it is asked for help. -/
def helpText : String :=
  "Send a message through a software loopback serial port and read it back.\n\n" ++
    usageText ++
    "\n\nArguments:\n  [MESSAGE]\n          Message to send through the loopback [default: \"" ++
    defaultMessage ++ "\"]\n\nOptions:\n" ++
    "".intercalate ((Named.all : List Flag).map flagLine)

end Loopback.CommandLine
