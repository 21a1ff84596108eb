import Loopback.Host.FileTree

/-!
# The host of a process

What a process finds about it: its environment, the files and the storage under them, and the
directory it works in. The values of environment variables are octets, which may or may not be text.
-/

namespace Loopback

/-- The environment of a process, latest setting first. -/
abbrev Environment := List (String × List UInt8)

namespace Environment

/-- The octets that a variable is set to. -/
def octets? (env : Environment) (name : String) : Option (List UInt8) := env.lookup name

/-- The text that a variable is set to. A value that is no text counts as none. -/
def text? (env : Environment) (name : String) : Option String :=
  (env.octets? name).bind fun octets => (Text.Utf8.decode? octets).map String.ofList

/-- The environment with a variable set. -/
def set (env : Environment) (name : String) (octets : List UInt8) : Environment :=
  (name, octets) :: env.filter (·.1 ≠ name)

/-- The environment without a variable. -/
def unset (env : Environment) (name : String) : Environment := env.filter (·.1 ≠ name)

end Environment

/-- The surroundings of a process. -/
structure Host where
  environment : Environment
  files : FileTree
  workingDirectory : FilePlace
  storage : Storage := .ample

namespace Host

/-- Whether a path leads to a file. -/
def isFile (h : Host) (path : Path) : Bool := h.files.isFile h.workingDirectory path

/-- Read a file as text. -/
def readText (h : Host) (path : Path) : Except IoFailure String :=
  h.files.readText h.workingDirectory path

/-- Make the directories above a path that are missing. A path of one name is in a directory that
is there. -/
def makeParents (h : Host) (path : Path) : Except IoFailure Unit × FileTree :=
  match path.parent? with
  | none => (.ok (), h.files)
  | some [] => (.ok (), h.files)
  | some parent => h.files.makeDirectories h.storage h.workingDirectory parent

/-- Write a file, and first make the directories above it that are missing. A directory that was
made stays even if the file cannot be written, and so does what was written of the file. -/
def writeFile (h : Host) (path : Path) (content : List UInt8) : Except IoFailure Unit × Host :=
  match h.makeParents path with
  | (.error failure, files) => (.error failure, { h with files })
  | (.ok (), files) =>
    let (result, files) := files.write h.storage h.workingDirectory path content
    (result, { h with files })

end Host

end Loopback
