import Loopback.Named

/-!
# Flags

What the command can be told beside the message. A flag is written as two dashes and its name,
and some also as one dash and a letter. Most take a value.
-/

namespace Loopback.CommandLine

/-- A flag of the command. -/
inductive Flag where
  | url
  | baud
  | readTimeout
  | writeTimeout
  | config
  | logLevel
  | json
  | help
  | version
deriving DecidableEq, Repr

instance : Named Flag where
  all := [.url, .baud, .readTimeout, .writeTimeout, .config, .logLevel, .json, .help, .version]
  name
    | .url => "url"
    | .baud => "baud"
    | .readTimeout => "read-timeout-ms"
    | .writeTimeout => "write-timeout-ms"
    | .config => "config"
    | .logLevel => "log-level"
    | .json => "json"
    | .help => "help"
    | .version => "version"

namespace Flag

/-- The letter of a flag, if it has one. -/
def letter? : Flag → Option Char
  | .url => some 'u'
  | .baud => some 'b'
  | .config => some 'c'
  | .help => some 'h'
  | .version => some 'V'
  | .readTimeout => none
  | .writeTimeout => none
  | .logLevel => none
  | .json => none

/-- The flag of a letter. -/
def ofLetter? (letter : Char) : Option Flag :=
  (Named.all : List Flag).find? fun flag => flag.letter? == some letter

/-- What stands for the value of a flag that takes one. -/
def valueName? : Flag → Option String
  | .url => some "URL"
  | .baud => some "BAUD"
  | .readTimeout => some "READ_TIMEOUT_MS"
  | .writeTimeout => some "WRITE_TIMEOUT_MS"
  | .config => some "CONFIG"
  | .logLevel => some "LOG_LEVEL"
  | .json => none
  | .help => none
  | .version => none

/-- Whether a flag takes a value. -/
def takesValue (flag : Flag) : Bool := flag.valueName?.isSome

/-- A flag as it is written, with what stands for its value. -/
def shown (flag : Flag) : String :=
  match flag.valueName? with
  | some value => "--" ++ Named.name flag ++ " <" ++ value ++ ">"
  | none => "--" ++ Named.name flag

/-- What a flag is for. -/
def purpose : Flag → String
  | .url => "Channel address, e.g. loop://?logging=debug"
  | .baud => "Baud rate used for advisory transmit timing"
  | .readTimeout => "Read timeout in milliseconds"
  | .writeTimeout => "Write timeout in milliseconds"
  | .config => "Path to a config file instead of the standard locations"
  | .logLevel => "Log filter directive, e.g. \"debug\" or \"loop_serial=trace\""
  | .json => "Print the report as JSON and log as JSON"
  | .help => "Print help"
  | .version => "Print version"

end Flag

end Loopback.CommandLine
