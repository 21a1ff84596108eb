import Loopback.CommandLine.Arguments
import Loopback.CommandLine.Report
import Loopback.Config.Loader
import Loopback.Logging.Filter

/-!
# A call of the command

The arguments are read, a configuration is loaded, overridden by flags and checked, and a message
is sent through the channel it describes. A call concludes with what is printed, the events that
the filter lets through, and how it ended.
-/

namespace Loopback.CommandLine

/-- What a call prints. -/
inductive Printout where
  | nothing
  | help
  | version
  | sentences (report : Report)
  | object (report : Report)

/-- Why a call failed that was not wrong. -/
inductive CommandFailure where
  | config (failure : ConfigFailure)
  | port (failure : Background.Failure)
  | mismatch
deriving DecidableEq, Repr

/-- How a call ends. -/
inductive Exit where
  | success
  | failure (failure : CommandFailure)
  | misuse (misuse : Misuse)
deriving DecidableEq, Repr

/-- What comes of a call. -/
structure Conclusion where
  printout : Printout
  log : List Event
  format : LogFormat
  exit : Exit

/-- What a call prints, as text. -/
def Printout.text : Printout → String
  | .nothing => ""
  | .help => helpText
  | .version => versionText ++ "\n"
  | .sentences report => report.text
  | .object report => report.toJson.pretty ++ "\n"

/-- The failure shown with its parts. -/
def CommandFailure.text : CommandFailure → String
  | .config failure => failure.text
  | .port failure => failure.text
  | .mismatch => Text.quoted "loopback echo mismatch"

/-- The code that a call leaves behind. -/
def Exit.code : Exit → Nat
  | .success => 0
  | .failure _ => 1
  | .misuse _ => 2

namespace Conclusion

/-- A call that reports no event. -/
def silent (printout : Printout) (exit : Exit) : Conclusion where
  printout := printout
  log := []
  format := LoggingConfig.default.format
  exit := exit

/-- A call whose reading ended early. -/
def ofStop : Stop → Conclusion
  | .misuse misuse => silent .nothing (.misuse misuse)
  | .help => silent .help .success
  | .version => silent .version .success

end Conclusion

namespace Arguments

/-- A configuration with what the flags say instead. -/
def override (a : Arguments) (c : Config) : Config where
  channel := { c.channel with
    address := a.url.getD c.channel.address
    baudRate := a.baud.getD c.channel.baudRate
    readTimeoutMillis := a.readTimeoutMillis.orElse fun _ => c.channel.readTimeoutMillis
    writeTimeoutMillis := a.writeTimeoutMillis.orElse fun _ => c.channel.writeTimeoutMillis }
  logging :=
    { level := a.logLevel.getD c.logging.level
      format := if a.json then .json else c.logging.format }

/-- The configuration that a call works with. -/
def resolve (a : Arguments) (h : Host) : Except ConfigFailure Config := do
  let loader ←
    match a.config with
    | some path => Loader.loadFrom h path
    | Option.none => Loader.load h
  let config := a.override loader.config
  config.validate
  pure config

end Arguments

/-- The variable that names a filter, which then goes before the configured one. -/
def filterVariable : String := "RUST_LOG"

/-- The filter of a call. A filter of the environment counts only if all of it can be read. -/
def filterOf (env : Environment) (c : LoggingConfig) : Logging.Filter :=
  ((env.text? filterVariable).bind Logging.Filter.strict?).getD (.lenient c.level)

/-- What is reported when the configuration is known. -/
def resolvedEvent (c : Config) : Event where
  severity := .debug
  target := Event.commandTarget
  message := "configuration resolved"
  fields := [("config", .string c.text)]

/-- Send a message through the channel of a configuration. There is no answer if this never
ends. -/
def send? (env : Environment) (c : Config) (json : Bool) (message : List UInt8) :
    Option Conclusion := do
  let (result, world) ← Exchange.run? c.channel.builder message
  let events := resolvedEvent c :: world.journal.reverse.map (·.event)
  let conclude (printout : Printout) (exit : Exit) : Conclusion :=
    { printout, exit
      log := events.filter (filterOf env c.logging).admits
      format := c.logging.format }
  match result with
  | .error failure => some (conclude .nothing (.failure (.port failure)))
  | .ok exchange =>
    let report := Report.ofExchange message exchange
    some (conclude (if json then .object report else .sentences report)
      (if report.isMatch then .success else .failure .mismatch))

/-- Call the command with some words. There is no answer if this never ends. -/
def run? (h : Host) (words : List String) : Option Conclusion :=
  match Arguments.read words with
  | .error stop => some (.ofStop stop)
  | .ok arguments =>
    match arguments.resolve h with
    | .error failure => some (.silent .nothing (.failure (.config failure)))
    | .ok config =>
      let message := arguments.message.getD defaultMessage
      send? h.environment config arguments.json (Text.Utf8.encode message.toList)

/-- The files that a call may read. -/
def filesOf (env : Environment) (words : List String) : List Path :=
  match Arguments.read words with
  | .error _ => []
  | .ok arguments =>
    match arguments.config with
    | some path => [path]
    | none => Loader.candidates env

/-- The variables of the environment that a call may look at. -/
def variableNames : List String :=
  [filterVariable, Loader.pathVariable, Loader.userVariable, Loader.homeVariable] ++
    Override.all.map (·.name)

end Loopback.CommandLine
