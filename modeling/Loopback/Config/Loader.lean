import Loopback.Config.Overrides
import Loopback.Config.Shape
import Loopback.Config.Writer
import Loopback.Event

/-!
# Loading and saving configurations

A configuration is read from a given file, or from the first file found in a few customary places,
or is the default. Overrides of the environment are applied on top, and the result is checked. A
loader keeps the path it was loaded from, to save there and to load again.
-/

namespace Loopback

/-- A configuration and the file it came from, if any. -/
structure Loader where
  path : Option Path
  config : Config
deriving DecidableEq

namespace Loader

/-- The variable that names a configuration file. -/
def pathVariable : String := "LOOP_SERIAL_CONFIG"

/-- The name of a configuration file. -/
def fileName : Path := .ofText "loop-serial.toml"

/-- The directory for configuration files of this program. -/
def directoryName : Path := .ofText "loop-serial"

/-- The variable that names the directory for configuration files of a user. -/
def userVariable : String := "XDG_CONFIG_HOME"

/-- The variable that names the home of a user. -/
def homeVariable : String := "HOME"

/-- The directory for configuration files of a user. -/
def userDirectory? (env : Environment) : Option Path :=
  (env.octets? userVariable).orElse fun _ =>
    (env.octets? homeVariable).map fun home => Path.join home (.ofText ".config")

/-- Where a configuration file may be, in the order in which the places are tried. -/
def candidates (env : Environment) : List Path :=
  (env.octets? pathVariable).toList ++ [fileName] ++
    ((userDirectory? env).map fun dir => Path.join (Path.join dir directoryName) fileName).toList

/-- The first place where there is a file. -/
def find? (h : Host) : Option Path := (candidates h.environment).find? h.isFile

/-- Read a file as a configuration. -/
def readConfig (h : Host) (path : Path) : Except ConfigFailure Config :=
  match h.readText path with
  | .error failure => .error (.read path failure)
  | .ok text =>
    match Toml.parse? text with
    | none => .error (.parse path none)
    | some entries =>
      match Config.ofEntries entries with
      | .error misfit => .error (.parse path (some misfit))
      | .ok config => .ok config

/-- Apply the overrides of the environment, and check the result. -/
def complete (env : Environment) (path : Option Path) (config : Config) :
    Except ConfigFailure Loader :=
  match config.overridden env with
  | ⟨_, some failure⟩ => .error failure
  | ⟨config, none⟩ =>
    match config.validate with
    | .error failure => .error failure
    | .ok () => .ok ⟨path, config⟩

/-- Load a configuration from a file. -/
def loadFrom (h : Host) (path : Path) : Except ConfigFailure Loader :=
  match readConfig h path with
  | .error failure => .error failure
  | .ok config => complete h.environment (some path) config

/-- Load the configuration of the first file there is, or the default. -/
def load (h : Host) : Except ConfigFailure Loader :=
  match find? h with
  | some path => loadFrom h path
  | none => complete h.environment none .default

/-- What is reported of an override that was not applied. -/
def ignoredEvent (failure : ConfigFailure) : Event where
  severity := .warning
  target := Event.configTarget
  message := "ignoring environment override: " ++ failure.message
  fields := []

/-- The default configuration with overrides, up to the first that does not parse, which is
reported. -/
def withDefaults (env : Environment) : Loader × List Event :=
  let result := Config.default.overridden env
  (⟨none, result.config⟩, result.failure.toList.map ignoredEvent)

/-- Write the configuration to a file. One that cannot be written down leaves all files alone. -/
def saveTo (l : Loader) (h : Host) (path : Path) : Except ConfigFailure Unit × Host :=
  match l.config.write? with
  | none => (.error .encode, h)
  | some document =>
    match h.writeFile path (Text.Utf8.encode document) with
    | (.ok (), h) => (.ok (), h)
    | (.error failure, h) => (.error (.write path failure), h)

/-- Write the configuration to the file it came from. -/
def save (l : Loader) (h : Host) : Except ConfigFailure Unit × Host :=
  match l.path with
  | none => (.error .noPath, h)
  | some path => l.saveTo h path

/-- Load the configuration again from the file it came from, if it came from one. -/
def reload (l : Loader) (h : Host) : Except ConfigFailure Loader :=
  match l.path with
  | none => .ok l
  | some path => loadFrom h path

end Loader

end Loopback
