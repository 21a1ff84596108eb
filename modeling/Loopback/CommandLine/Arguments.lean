import Loopback.CommandLine.Usage
import Loopback.Host.Path
import Loopback.Text.Cut
import Loopback.Text.Numeral

/-!
# Arguments of the command

The words of a call are read in turn. A flag and its value may stand in one word or in two; in two,
the value is looked at only when the next flag or the message comes, or at the end. After a word
of two dashes every word is taken for the message, of which there can be only one.
-/

namespace Loopback.CommandLine

/-- What a call says. -/
structure Arguments where
  message : Option String
  url : Option String
  baud : Option UInt32
  readTimeoutMillis : Option UInt64
  writeTimeoutMillis : Option UInt64
  config : Option Path
  logLevel : Option String
  json : Bool

/-- Why reading a call ended early: it is wrong, or only asks about the command. -/
inductive Stop where
  | misuse (misuse : Misuse)
  | help
  | version
deriving DecidableEq, Repr

/-- What the baud rate has to lie between. -/
def baudBounds : String := "0..=" ++ Text.decimal Text.max32

/-- Read a baud rate. -/
def readBaud (value : String) : Except String UInt32 :=
  match Text.readInteger Text.maxSigned64 value.toList with
  | .error fault => .error fault.message
  | .ok n =>
    if 0 ≤ n ∧ n ≤ Text.max32 then .ok (UInt32.ofNat n.toNat)
    else .error (Text.signedDecimal n ++ " is not in " ++ baudBounds)

/-- Read a time in milliseconds. -/
def readMillis (value : String) : Except String UInt64 :=
  match Text.readNatural Text.max64 value.toList with
  | .error fault => .error fault.message
  | .ok n => .ok (UInt64.ofNat n)

namespace Arguments

/-- A call of no words. -/
def none : Arguments where
  message := .none
  url := .none
  baud := .none
  readTimeoutMillis := .none
  writeTimeoutMillis := .none
  config := .none
  logLevel := .none
  json := false

/-- Whether a flag has been given. -/
def has (a : Arguments) : Flag → Bool
  | .url => a.url.isSome
  | .baud => a.baud.isSome
  | .readTimeout => a.readTimeoutMillis.isSome
  | .writeTimeout => a.writeTimeoutMillis.isSome
  | .config => a.config.isSome
  | .logLevel => a.logLevel.isSome
  | .json => a.json
  | .help => false
  | .version => false

/-- Something read from the value of a flag, which is to blame if that fails. -/
def reading {α : Type} (flag : Flag) (value : String) (read : String → Except String α) :
    Except Stop α :=
  (read value).mapError fun reason => .misuse (.invalidValue flag value reason)

/-- Give a flag its value. -/
def assign (a : Arguments) (flag : Flag) (value : String) : Except Stop Arguments :=
  match flag with
  | .url => .ok { a with url := some value }
  | .baud => (reading flag value readBaud).map fun baud => { a with baud := some baud }
  | .readTimeout =>
    (reading flag value readMillis).map fun millis => { a with readTimeoutMillis := some millis }
  | .writeTimeout =>
    (reading flag value readMillis).map fun millis => { a with writeTimeoutMillis := some millis }
  | .config =>
    if value = "" then .error (.misuse (.missingValue flag))
    else .ok { a with config := some (.ofText value) }
  | .logLevel => .ok { a with logLevel := some value }
  | .json => .error (.misuse (.unexpectedValue flag value))
  | .help => .error (.misuse (.unexpectedValue flag value))
  | .version => .error (.misuse (.unexpectedValue flag value))

/-- Take a flag with its value. No flag can be given twice. -/
def accept (a : Arguments) (flag : Flag) (value : String) : Except Stop Arguments :=
  if a.has flag then .error (.misuse (.repeated flag)) else a.assign flag value

/-- Take a flag without a value. One that asks about the command ends the reading. -/
def raise (a : Arguments) (flag : Flag) : Except Stop Arguments :=
  match flag with
  | .help => .error .help
  | .version => .error .version
  | .json => if a.json then .error (.misuse (.repeated flag)) else .ok { a with json := true }
  | _ => .error (.misuse (.missingValue flag))

end Arguments

/-- A flag in a word of its own, and its value if the word for it has come. -/
structure Pending where
  flag : Flag
  value : Option String
deriving DecidableEq, Repr

/-- How far a call has been read. -/
structure Progress where
  arguments : Arguments
  pending : Option Pending
  escaped : Bool

namespace Progress

/-- Nothing read yet. -/
def start : Progress := ⟨.none, none, false⟩

/-- Look at what is pending. -/
def settle (p : Progress) : Except Stop Arguments :=
  match p.pending with
  | none => .ok p.arguments
  | some ⟨flag, some value⟩ => p.arguments.accept flag value
  | some ⟨flag, none⟩ => .error (.misuse (.missingValue flag))

/-- Go on with other arguments, and nothing pending. -/
def goOn (p : Progress) (arguments : Arguments) : Progress :=
  { p with arguments, pending := none }

/-- A flag whose value comes in the next word. -/
def await (p : Progress) (flag : Flag) : Except Stop Progress := do
  let arguments ← p.settle
  pure { p with arguments, pending := some ⟨flag, none⟩ }

/-- A flag with its value in the same word. -/
def accept (p : Progress) (flag : Flag) (value : List Char) : Except Stop Progress := do
  let arguments ← p.settle
  p.goOn <$> arguments.accept flag (String.ofList value)

/-- A flag that takes no value. -/
def raise (p : Progress) (flag : Flag) : Except Stop Progress := do
  let arguments ← p.settle
  p.goOn <$> arguments.raise flag

/-- A flag by its name, and the value after an equals sign if there is one. -/
def readName (p : Progress) (name : List Char) (value : Option (List Char)) :
    Except Stop Progress :=
  match Named.find? (String.ofList name) with
  | none => .error (.misuse (.unexpectedArgument (String.ofList ('-' :: '-' :: name))))
  | some flag =>
    if Flag.takesValue flag then
      match value with
      | none => p.await flag
      | some value => p.accept flag value
    else
      match value with
      | none => p.raise flag
      | some value => .error (.misuse (.unexpectedValue flag (String.ofList value)))

/-- Flags by their letters. What follows the letter of one that takes a value is the value. -/
def readLetters (p : Progress) : List Char → Except Stop Progress
  | [] => .ok p
  | letter :: rest =>
    match Flag.ofLetter? letter with
    | none => .error (.misuse (.unexpectedArgument (String.ofList ['-', letter])))
    | some flag =>
      if flag.takesValue then
        match rest with
        | [] => p.await flag
        | '=' :: value => p.accept flag value
        | value => p.accept flag value
      else
        match p.raise flag with
        | .ok p => readLetters p rest
        | .error stop => .error stop

/-- The message. There is only one. -/
def readMessage (p : Progress) (word : String) : Except Stop Progress :=
  if p.arguments.message.isSome then .error (.misuse (.unexpectedArgument word))
  else do
    let arguments ← p.settle
    pure (p.goOn { arguments with message := some word })

/-- A word that is no flag: the value of the flag before it, or the message. -/
def readPlain (p : Progress) (word : String) : Except Stop Progress :=
  match p.pending with
  | some ⟨flag, none⟩ => .ok { p with pending := some ⟨flag, some word⟩ }
  | _ => p.readMessage word

/-- The next word. -/
def readWord (p : Progress) (word : String) : Except Stop Progress :=
  if p.escaped then p.readMessage word
  else
    match word.toList with
    | ['-', '-'] => .ok { p with escaped := true }
    | '-' :: '-' :: rest =>
      let (name, value) := Text.cut '=' rest
      p.readName name value
    | '-' :: letter :: rest => p.readLetters (letter :: rest)
    | _ => p.readPlain word

end Progress

namespace Arguments

/-- Read the words of a call. -/
def read (words : List String) : Except Stop Arguments := do
  let progress ← words.foldlM Progress.readWord .start
  progress.settle

end Arguments

end Loopback.CommandLine
